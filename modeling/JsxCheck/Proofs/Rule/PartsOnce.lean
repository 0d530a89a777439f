import JsxCheck.Proofs.Rule.ListKeys
import JsxCheck.Proofs.Rule.NodesOnce

/-!
The rules on elements that need keys and on types point at no span twice.

What these rules point at is several levels below the node that they look at: an element that a
callback returns, a member of an interface, the type of a property that a type is given.
-/
namespace JsxCheck

open Node Visit

variable {source : Source} {root : Node}

namespace Rule

/-! ### Elements that need keys -/

namespace Keys

/-- What may hold elements that need keys. -/
def isHolder (n : Node) : Bool := n.form? == some .array || n.form? == some .call

theorem isHolder_plain {n : Node} (holder : isHolder n = true) :
    n.kind.isSpelling = false ∧ n.kind ≠ .parameters := by
  rcases Bool.or_eq_true_iff.mp holder with form | form <;>
    rcases kind_of_form? (beq_iff_eq.mp form) with kind | kind <;> rw [kind] <;>
    exact ⟨rfl, by decide⟩

theorem isHolder_passes : PassesAttributes isHolder := by
  rintro n (kind | kind | kind) <;> simp [isHolder, form?, kind]

theorem missing_spans (n : Node) : spansOf (missing n) = [] ∨
    (n.form? = some .jsxElement ∧ spansOf (missing n) = [n.span]) := by
  unfold missing
  split
  · rename_i e view
    obtain ⟨form, span, _⟩ := element?_eq_some view
    split
    · exact Or.inl rfl
    · exact Or.inr ⟨form, by rw [← span]; rfl⟩
  · exact Or.inl rfl

theorem mem_missing {n : Node} {s : Span} (said : s ∈ spansOf (missing n)) :
    n.form? = some .jsxElement ∧ s = n.span := by
  rcases missing_spans n with none | ⟨form, one⟩
  · rw [none] at said
    cases said
  · rw [one] at said
    exact ⟨form, List.mem_singleton.mp said⟩

theorem seat_element {p : Node → Bool} {n : Node} (formed : n.Formed source)
    (form : n.form? = some .jsxElement) : Seat p n n.span.start ∧ n.span.start < n.span.stop := by
  have plain := element_plain form
  have solid := formed.nonempty plain.2.2.2.1
  exact ⟨seat_start formed plain.1 solid, solid⟩

theorem seat_returned {function value : Node} {k : Nat} (formed : function.WellFormed source)
    (returned : function.Returns value) (seat : Seat isHolder value k) :
    Seat isHolder function k := by
  obtain ⟨kindF, body, child, kindB, s, inBody, kindS, inStatement⟩ := returned.inside
  have formedBody := formed.child child
  have inS : Seat isHolder s k := by
    refine seat.lift (formedBody.child inBody).root ?_ inStatement (Or.inl ?_) ?_ <;>
      rcases kindS with kind | kind <;> simp [kind, isHolder, form?, Kind.mayRespell,
        Kind.mayTakeThis]
  have inB : Seat isHolder body k := by
    refine inS.lift formedBody.root (by rw [kindB]; rfl) inBody (Or.inl (by rw [kindB]; rfl)) ?_
    simp [isHolder, form?, kindB]
  refine inB.lift formed.root ?_ child (Or.inr ⟨by rw [kindB]; decide, by rw [kindB]; decide⟩) ?_ <;>
    rcases kindF with ⟨_, kind⟩ | kind <;> simp [kind, isHolder, form?, Kind.mayRespell]

/-- An element that a callback of `map` returns is seated in the call. -/
theorem keyOfMapCall_seated {call : Node} {s : Span} (formed : call.WellFormed source)
    (form : call.form? = some .call) (said : s ∈ spansOf (keyOfMapCall call)) :
    Seated isHolder call s.start := by
  unfold keyOfMapCall at said
  split at said
  · rename_i value found
    split at said
    · obtain ⟨function, argument, returned⟩ := Option.bind_eq_some_iff.mp found
      obtain ⟨element, rfl⟩ := mem_missing said
      have returned := returned?_eq_some_iff.mp returned
      have listed := (mapArgument?_eq_some_iff.mp argument).mem_tail
      have child := List.mem_of_mem_tail listed
      have formedF := formed.child child
      have formedValue := formedF.of_mem returned.mem_preorder
      obtain ⟨seat, _⟩ := seat_element (p := isHolder)
        (formedValue.of_mem (unwrapParens_mem value)).root element
      have inFunction := seat_returned formedF returned
        (seat_of_unwrapParens isHolder_passes formedValue seat)
      have behind := formed.root.called form function listed
      obtain ⟨low, high⟩ := inFunction.1
      rcases kind_of_form? form with kind | kind <;>
        exact inFunction.seated formed.root (by rw [kind]; rfl) child (Or.inl (by rw [kind]; rfl))
          (by simp [isHolder, form])
          ⟨by omega, Nat.lt_of_lt_of_le high (formed.root.inside (by rw [kind]; rfl) _ child).2⟩
    · cases said
  · cases said

theorem keysOfArray_seated {array : Node} {s : Span} (formed : array.WellFormed source)
    (form : array.form? = some .array) (said : s ∈ spansOf (keysOfArray array)) :
    Seated isHolder array s.start := by
  rw [keysOfArray, spansOf, List.map_flatMap] at said
  obtain ⟨c, listed, told⟩ := List.mem_flatMap.mp said
  have child := (List.mem_filter.mp listed).1
  obtain ⟨element, rfl⟩ := mem_missing told
  obtain ⟨seat, _⟩ := seat_element (p := isHolder) (formed.child child).root element
  obtain ⟨low, high⟩ := seat.1
  rcases kind_of_form? form with kind | kind <;>
    exact seat.seated formed.root (by rw [kind]; rfl) child (Or.inl (by rw [kind]; rfl))
      (by simp [isHolder, form])
      ⟨Nat.lt_of_lt_of_le (formed.root.opens (by rw [kind]; rfl) c child) low,
        Nat.lt_of_lt_of_le high (formed.root.inside (by rw [kind]; rfl) c child).2⟩

theorem keysOfArray_nodup {array : Node} (formed : array.WellFormed source)
    (form : array.form? = some .array) : (spansOf (keysOfArray array)).Nodup := by
  have beside : array.children.Pairwise fun a b => a.extent.Apart b.extent := by
    rcases kind_of_form? form with kind | kind <;>
      exact formed.root.parts_apart (by rw [kind]; rfl) (by rw [kind]; rfl)
  rw [keysOfArray, spansOf, List.map_flatMap, List.nodup_flatMap]
  refine ⟨?_, (beside.sublist List.filter_sublist).imp_of_mem ?_⟩
  · intro c _
    rcases missing_spans c with none | ⟨_, one⟩
    · rw [← spansOf, none]
      exact List.nodup_nil
    · rw [← spansOf, one]
      exact List.nodup_singleton _
  · intro c d first _ apart s told told'
    have child := (List.mem_filter.mp first).1
    obtain ⟨element, same⟩ := mem_missing told
    obtain ⟨_, same'⟩ := mem_missing told'
    have solid := (seat_element (p := isHolder) (formed.child child).root element).2
    exact (apart.within (span_within_extent c) (span_within_extent d)).ne solid
      (same.symm.trans same')

end Keys

theorem jsxKey_once (formed : root.WellFormed source) :
    (spansOf (root.visits.flatMap fun v =>
      v.onForm .array keysOfArray ++ v.onForm .call keyOfMapCall)).Nodup := by
  rw [spansOf, List.map_flatMap]
  refine nodup_of_seated formed (fun n => Keys.isHolder_plain) ?_ ?_
  · intro v member
    have here := formed.of_mem (node_mem_preorder member)
    unfold onForm
    split
    · rename_i form
      rw [if_neg (by rw [form]; decide), List.append_nil]
      exact Keys.keysOfArray_nodup here form
    · rw [List.nil_append]
      split
      · unfold keyOfMapCall
        split
        · split
          · rcases Keys.missing_spans (Node.unwrapParens _) with none | ⟨_, one⟩
            · rw [← spansOf, none]
              exact List.nodup_nil
            · rw [← spansOf, one]
              exact List.nodup_singleton _
          · exact List.nodup_nil
        · exact List.nodup_nil
      · exact List.nodup_nil
  · intro v member s said
    have here := formed.of_mem (node_mem_preorder member)
    rw [List.map_append] at said
    unfold onForm at said
    rcases List.mem_append.mp said with said | said
    · split at said
      · exact Keys.keysOfArray_seated here ‹_› said
      · cases said
    · split at said
      · exact Keys.keyOfMapCall_seated here ‹_› said
      · cases said

/-! ### Types -/

theorem unsorted_sublist (compare : String → String → Ordering) (doc : Document)
    (previous : String) (members : List Node) :
    (PropInterfaces.unsorted compare doc previous members).Sublist members := by
  induction members generalizing previous with
  | nil => exact List.Sublist.refl _
  | cons member rest ih =>
    unfold PropInterfaces.unsorted
    dsimp only
    split
    · exact (ih _).cons _
    · exact (ih _).cons_cons _

theorem kind_of_isPropertySignature {n : Node} (property : n.isPropertySignature = true) :
    n.kind = .propertySignature := by
  unfold Node.isPropertySignature at property
  split at property
  · rfl
  · cases property

def isInterface (n : Node) : Bool := n.kind == .interfaceDeclaration

theorem mem_propSorting {compare : String → String → Ordering} {doc : Document} {n : Node}
    {s : Span} (said : s ∈ spansOf (propSorting compare doc n)) :
    n.kind = .interfaceDeclaration ∧
      ∃ body ∈ n.children, body.kind = .interfaceBody ∧ ∃ c ∈ body.children,
        c.kind = .propertySignature ∧ s = c.span := by
  unfold propSorting at said
  split at said
  · rename_i members view
    obtain ⟨kind, body, child, kindB, rfl⟩ := interface?_eq_some view
    rw [spansOf, List.map_map] at said
    obtain ⟨c, listed, rfl⟩ := List.mem_map.mp said
    obtain ⟨inBody, property⟩ := List.mem_filter.mp ((unsorted_sublist _ doc _ _).subset listed)
    exact ⟨kind, body, child, kindB, c, inBody, kind_of_isPropertySignature property, rfl⟩
  · cases said

theorem propSorting_once (compare : String → String → Ordering) (doc : Document)
    (formed : root.WellFormed source) :
    (spansOf (root.visits.flatMap fun v => propSorting compare doc v.node)).Nodup := by
  rw [spansOf, List.map_flatMap]
  refine nodup_of_seated (p := isInterface) formed ?_ ?_ ?_
  · intro n holds
    rw [beq_iff_eq.mp holds]
    exact ⟨rfl, by decide⟩
  · intro v member
    have here := formed.of_mem (node_mem_preorder member)
    unfold propSorting
    split
    · rename_i members view
      obtain ⟨_, body, child, kindB, rfl⟩ := interface?_eq_some view
      have formedBody := here.child child
      have beside := formedBody.root.parts_apart (by rw [kindB]; rfl) (by rw [kindB]; rfl)
      rw [List.map_map]
      refine List.pairwise_map.mpr
        ((beside.sublist ((unsorted_sublist _ doc _ _).trans List.filter_sublist)).imp_of_mem ?_)
      intro c d first _ apart
      obtain ⟨inBody, property⟩ := List.mem_filter.mp ((unsorted_sublist _ doc _ _).subset first)
      have solid := (formedBody.child inBody).root.nonempty
        (by rw [kind_of_isPropertySignature property]; rfl)
      exact (apart.within (span_within_extent c) (span_within_extent d)).ne solid
    · exact List.nodup_nil
  · intro v member s said
    have here := formed.of_mem (node_mem_preorder member)
    obtain ⟨kind, body, child, kindB, c, inBody, kindC, rfl⟩ := mem_propSorting said
    have formedC := (here.child child).child inBody
    have seat : Seat isInterface c c.span.start :=
      seat_start formedC.root (by rw [kindC]; rfl) (formedC.root.nonempty (by rw [kindC]; rfl))
    have inB := seat.lift (here.child child).root (by rw [kindB]; rfl) inBody
      (Or.inl (by rw [kindB]; rfl)) (by simp [isInterface, kindB])
    have behind := here.root.opens (by rw [kind]; rfl) body child
    have inside := here.root.inside (by rw [kind]; rfl) body child
    exact inB.seated here.root (by rw [kind]; rfl) child (Or.inl (by rw [kind]; rfl))
      (by simp [isInterface, kind])
      ⟨Nat.lt_of_lt_of_le behind inB.1.1, Nat.lt_of_lt_of_le inB.1.2 inside.2⟩

theorem typeReference?_eq_some {n name : Node} {arguments : List Node}
    (view : n.typeReference? = some (name, arguments)) :
    n.kind = .typeReference ∧ arguments = n.children.tail.flatMap Node.children := by
  unfold Node.typeReference? at view
  split at view
  · cases view
    exact ⟨rfl, rfl⟩
  · cases view

theorem propertyType?_eq_some {n type : Node} (view : n.propertyType? = some type) :
    n.kind = .propertySignature ∧ ∃ c ∈ n.children, c.kind = .ascription ∧ c.children = [type] := by
  unfold Node.propertyType? at view
  split at view
  · obtain ⟨c, listed, shape⟩ := List.exists_of_findSome?_eq_some view
    unfold Node.ascription? at shape
    split at shape
    · cases shape
      exact ⟨rfl, _, listed, rfl, rfl⟩
    · cases shape
  · cases view

theorem isComposite_solid {t : Node} (composite : (t.typeLiteral?.isSome || t.isTypeReference) = true) :
    t.kind.mayBeDecorated = false ∧ t.kind.mayBeEmpty = false := by
  rcases Bool.or_eq_true_iff.mp composite with literal | reference
  · unfold Node.typeLiteral? at literal
    split at literal
    · exact ⟨rfl, rfl⟩
    · cases literal
  · obtain ⟨⟨name, arguments⟩, view⟩ := Option.isSome_iff_exists.mp reference
    rw [(typeReference?_eq_some view).1]
    exact ⟨rfl, rfl⟩

theorem typeLiteral?_eq_some {n : Node} {members : List Node}
    (view : n.typeLiteral? = some members) : n.kind = .typeLiteral ∧ members = n.children := by
  unfold Node.typeLiteral? at view
  split at view
  · cases view
    exact ⟨rfl, rfl⟩
  · cases view

/-- The types of the properties that a type reference is given. -/
theorem mem_getD_typeLiteral? {props c : Node} (listed : c ∈ (props.typeLiteral?).getD []) :
    props.kind = .typeLiteral ∧ c ∈ props.children := by
  cases view : props.typeLiteral? with
  | none =>
    rw [view] at listed
    cases listed
  | some members =>
    obtain ⟨kind, rfl⟩ := typeLiteral?_eq_some view
    rw [view] at listed
    exact ⟨kind, listed⟩

theorem isReference_plain {n : Node} (reference : (n.kind == Kind.typeReference) = true) :
    n.kind.isSpelling = false ∧ n.kind ≠ .parameters := by
  rw [beq_iff_eq.mp reference]
  exact ⟨rfl, by decide⟩

/-- The type of a property has its seat in the property. -/
theorem seat_propertyType {c type : Node} (formed : c.WellFormed source)
    (view : c.propertyType? = some type)
    (composite : (type.typeLiteral?.isSome || type.isTypeReference) = true) :
    Seat (·.kind == .typeReference) c type.span.start ∧ type.span.Within c.extent ∧
      type.span.start < type.span.stop := by
  obtain ⟨kind, ascription, child, kindA, content⟩ := propertyType?_eq_some view
  have inner : type ∈ ascription.children := by rw [content]; exact List.mem_cons_self
  have formedT := (formed.child child).child inner
  obtain ⟨plain, full⟩ := isComposite_solid composite
  have solid := formedT.root.nonempty full
  have inA := (seat_start (p := (·.kind == .typeReference)) formedT.root plain solid).lift
    (formed.child child).root (by rw [kindA]; rfl) inner (Or.inl (by rw [kindA]; rfl))
    (by rw [kindA]; rfl)
  exact ⟨inA.lift formed.root (by rw [kind]; rfl) child (Or.inl (by rw [kind]; rfl))
      (by rw [kind]; rfl),
    span_within_extent_of_mem (preorder_trans (mem_preorder_of_child inner)
      (mem_preorder_of_child child)), solid⟩

theorem primitiveAttributes_once (doc : Document) (formed : root.WellFormed source) :
    (spansOf (root.visits.flatMap fun v => primitiveAttributes doc v.node)).Nodup := by
  rw [spansOf, List.map_flatMap]
  refine nodup_of_seated (p := (·.kind == .typeReference)) formed
    (fun n => isReference_plain) ?_ ?_
  · intro v member
    have here := formed.of_mem (node_mem_preorder member)
    unfold primitiveAttributes
    split
    · rename_i name props view
      obtain ⟨_, arguments⟩ := typeReference?_eq_some view
      split
      · obtain ⟨list, inTail, inList⟩ := List.mem_flatMap.mp
          (arguments ▸ List.mem_cons_self : props ∈ v.node.children.tail.flatMap Node.children)
        have formedProps := (here.child (List.mem_of_mem_tail inTail)).child inList
        have beside : ((props.typeLiteral?).getD []).Pairwise fun a b =>
            a.extent.Apart b.extent := by
          cases literal : props.typeLiteral? with
          | none => exact List.Pairwise.nil
          | some members =>
            obtain ⟨kind, rfl⟩ := typeLiteral?_eq_some literal
            exact formedProps.root.parts_apart (by rw [kind]; rfl) (by rw [kind]; rfl)
        rw [List.map_map]
        refine List.pairwise_map.mpr (List.pairwise_filter.mpr (List.pairwise_filterMap.mpr
          (beside.imp_of_mem ?_)))
        intro c d first second apart type view type' view' composite composite'
        have child := (mem_getD_typeLiteral? first).2
        have child' := (mem_getD_typeLiteral? second).2
        obtain ⟨_, within, solid⟩ := seat_propertyType (formedProps.child child) view composite
        have within' := (seat_propertyType (formedProps.child child') view' composite').2.1
        exact (apart.within within within').ne solid
      · exact List.nodup_nil
    · exact List.nodup_nil
  · intro v member s said
    have here := formed.of_mem (node_mem_preorder member)
    unfold primitiveAttributes at said
    split at said
    · rename_i name props view
      obtain ⟨kind, arguments⟩ := typeReference?_eq_some view
      split at said
      · obtain ⟨list, inTail, inList⟩ := List.mem_flatMap.mp
          (arguments ▸ List.mem_cons_self : props ∈ v.node.children.tail.flatMap Node.children)
        have child := List.mem_of_mem_tail inTail
        have kindL := here.root.reference kind list inTail
        rw [List.map_map] at said
        obtain ⟨type, listed, rfl⟩ := List.mem_map.mp said
        obtain ⟨listed, composite⟩ := List.mem_filter.mp listed
        obtain ⟨c, inProps, view⟩ := List.mem_filterMap.mp listed
        obtain ⟨kindP, inProps⟩ := mem_getD_typeLiteral? inProps
        have formedL := here.child child
        have formedP := formedL.child inList
        obtain ⟨seat, _⟩ := seat_propertyType (formedP.child inProps) view composite
        have inP := seat.lift formedP.root (by rw [kindP]; rfl) inProps
          (Or.inl (by rw [kindP]; rfl)) (by rw [kindP]; rfl)
        have inL := inP.lift formedL.root (by rw [kindL]; rfl) inList
          (Or.inl (by rw [kindL]; rfl)) (by rw [kindL]; rfl)
        -- The `<` of the type arguments stands in front of them.
        have opens := formedL.root.opens (by rw [kindL]; rfl) props inList
        have start := (here.root.inside (by rw [kind]; rfl) list child).1
        have stop := (here.root.inside (by rw [kind]; rfl) list child).2
        have outer := (span_within_extent list).1
        refine inL.seated here.root (by rw [kind]; rfl) child (Or.inl (by rw [kind]; rfl))
          (by rw [kind]; rfl) ⟨?_, Nat.lt_of_lt_of_le inL.1.2 stop⟩
        have low := inP.1.1
        show v.node.span.start < type.span.start
        omega
      · cases said
    · cases said

end Rule

end JsxCheck
