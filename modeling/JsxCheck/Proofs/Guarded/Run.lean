import JsxCheck.Proofs.Guarded.Layout
import JsxCheck.Proofs.Guarded.Texts
import JsxCheck.Proofs.Lint.Passes
import JsxCheck.Proofs.Syntax.Placed

/-!
Runs over programs, with every step on offsets that may stop.

A program is sound when its tree and its comments fit the text. `guarded_run_ok` is the main statement:
on a sound program no step stops, whatever the configuration, the dialect and the path are, and the run
ends with the report of the run that has no such steps.
-/
namespace JsxCheck

namespace Kind

/-- Begins and ends with a token of its own. -/
def isEnclosed : Kind → Bool
  | jsxContainer | jsxSpreadAttribute | jsxSpreadChild | jsxOpening
  | expr .parenthesized | exprPart .parenthesized => true
  | _ => false

end Kind

/-- The tree and the comments of a program fit a text with offsets of 32 bits: spans lie in the text and
split no character, parts are inside, what has two tokens is as long as these, the name and the value of
an attribute have a token as well, and comments overlap neither each other nor an end of a node. -/
structure Program.Sound (source : Source) (p : Program) : Prop where
  small : source.size < 2 ^ 32
  placed : p.root.WellPlaced source
  enclosed : ∀ n ∈ p.root.preorder, n.kind.isEnclosed = true → n.span.start + 2 ≤ n.span.stop
  solid : ∀ n ∈ p.root.preorder, n.kind = .jsxAttribute →
    ∀ c ∈ n.children, c.span.start < c.span.stop
  comments : ∀ c ∈ p.comments, source.Sliceable c
  apart : p.comments.Pairwise Span.Apart
  outside : ∀ n ∈ p.root.preorder,
    Guarded.Clear p.comments n.span.start ∧ Guarded.Clear p.comments n.span.stop

instance (source : Source) (p : Program) : Decidable (p.Sound source) :=
  decidable_of_iff
    (source.size < 2 ^ 32
      ∧ p.root.WellPlaced source
      ∧ (∀ n ∈ p.root.preorder, n.kind.isEnclosed = true → n.span.start + 2 ≤ n.span.stop)
      ∧ (∀ n ∈ p.root.preorder, n.kind = .jsxAttribute →
          ∀ c ∈ n.children, c.span.start < c.span.stop)
      ∧ (∀ c ∈ p.comments, source.Sliceable c)
      ∧ p.comments.Pairwise Span.Apart
      ∧ ∀ n ∈ p.root.preorder,
          Guarded.Clear p.comments n.span.start ∧ Guarded.Clear p.comments n.span.stop)
    ⟨fun ⟨a, b, c, d, e, f, g⟩ => ⟨a, b, c, d, e, f, g⟩,
      fun ⟨a, b, c, d, e, f, g⟩ => ⟨a, b, c, d, e, f, g⟩⟩

namespace Guarded

/-! ### Rules -/

def onOpening (check : Opening → Except Fault (List Diagnostic)) (v : Visit) :
    Except Fault (List Diagnostic) :=
  match v.node.opening? with
  | some opening => check opening
  | none => .ok []

def onElement (check : Element → Except Fault (List Diagnostic)) (v : Visit) :
    Except Fault (List Diagnostic) :=
  match v.node.element? with
  | some element => check element
  | none => .ok []

def onBraces (container spread : Span → Node → Except Fault (List Diagnostic)) (v : Visit) :
    Except Fault (List Diagnostic) :=
  match v.node with
  | .mk .jsxContainer span [content] => container span content
  | .mk .jsxSpreadAttribute span [argument] => spread span argument
  | .mk .jsxSpreadChild span [argument] => spread span argument
  | _ => .ok []

def onText (check : Span → Except Fault (List Diagnostic)) (v : Visit) :
    Except Fault (List Diagnostic) :=
  match v.node.kind with
  | .jsxText => check v.node.span
  | _ => .ok []

/-- What a rule says about a node. The rules that are not named take no step that may stop. -/
def check (r : RuleName) (options : r.Options) (doc : Document) (v : Visit) (position : Position) :
    Except Fault (List Diagnostic) :=
  match r, options with
  | .jsxAlignment, _ => onElement (alignment doc) v
  | .jsxCurlySpacing, options => onBraces (braceSpacing options doc) (spreadSpacing options doc) v
  | .jsxEqualsSpacing, options => onOpening (equalsSpacing options doc) v
  | .jsxNamedPropInterface, _ => namedPropInterface doc v.node
  | .jsxSelfClose, _ => onElement (selfClose doc) v
  | .jsxWhitespaceLiteral, _ => onText (whitespaceLiteral doc) v
  | .jsxWrapMulitlines, _ => onElement (fun e => wrapMulitlines doc e position) v
  | .jsxWrapMultiline, _ => onElement (fun e => wrapMultiline doc e position) v
  | r, options => .ok (r.check options doc v position)

def checkVisit (c : Config) (doc : Document) (v : Visit) (position : Position) :
    Except Fault (List Diagnostic) := do
  let said ← RuleName.speakingOrder.mapM fun r =>
    match c.setting r with
    | some options => check r options doc v position
    | none => .ok []
  return said.flatten

def run (c : Config) (text : String) (dialect : Dialect) (path : Option String) (p : Program) :
    Except Fault Report := do
  let lines ← lineIndex ⟨text⟩
  let doc : Document := ⟨⟨text⟩, dialect, path, lines, p.comments⟩
  let visits := Walk.findings (fun v position => [checkVisit c doc v position]) p.root
  let said ← visits.mapM id
  if c.needsResolution then
    return (Report.mk said.flatten).merge (c.checkResolved (.ofProgram p.root) doc p.root)
  else return ⟨said.flatten⟩

/-! ### Dispatch -/

theorem onOpening_ok {v : Visit} {guarded : Opening → Except Fault (List Diagnostic)}
    {plain : Opening → List Diagnostic}
    (agree : ∀ o, v.node.opening? = some o → guarded o = .ok (plain o)) :
    onOpening guarded v = .ok (v.onOpening plain) := by
  unfold onOpening Visit.onOpening
  cases view : v.node.opening? with
  | none => rfl
  | some o => exact agree o view

theorem onElement_ok {v : Visit} {guarded : Element → Except Fault (List Diagnostic)}
    {plain : Element → List Diagnostic}
    (agree : ∀ e, v.node.element? = some e → guarded e = .ok (plain e)) :
    onElement guarded v = .ok (v.onElement plain) := by
  unfold onElement Visit.onElement
  cases view : v.node.element? with
  | none => rfl
  | some e => exact agree e view

theorem onBraces_ok {v : Visit} {container spread : Span → Node → Except Fault (List Diagnostic)}
    {plainContainer plainSpread : Span → Node → List Diagnostic}
    (containers : ∀ span content, v.node = .mk .jsxContainer span [content] →
      container span content = .ok (plainContainer span content))
    (spreads : ∀ kind span argument, kind.isEnclosed = true → v.node = .mk kind span [argument] →
      spread span argument = .ok (plainSpread span argument)) :
    onBraces container spread v = .ok (v.onBraces plainContainer plainSpread) := by
  unfold onBraces Visit.onBraces
  generalize v.node = node at containers spreads ⊢
  obtain ⟨kind, span, parts⟩ := node
  -- Braces are looked at when there is one part between them.
  rcases parts with _ | ⟨part, _ | ⟨_, _⟩⟩
  · cases kind <;> rfl
  · cases kind
    case jsxContainer => exact containers span part rfl
    case jsxSpreadAttribute => exact spreads _ span part rfl rfl
    case jsxSpreadChild => exact spreads _ span part rfl rfl
    all_goals rfl
  · cases kind <;> rfl

theorem onText_ok {v : Visit} {guarded : Span → Except Fault (List Diagnostic)}
    {plain : Span → List Diagnostic} (agree : guarded v.node.span = .ok (plain v.node.span)) :
    onText guarded v = .ok (v.onText plain) := by
  unfold onText Visit.onText
  generalize v.node.kind = kind
  cases kind
  case jsxText => exact agree
  all_goals rfl

section Sound

variable {text : String} {dialect : Dialect} {path : Option String} {p : Program}
  (sound : p.Sound ⟨text⟩)
include sound

theorem measured_of_sound : Measured (.ofText text dialect path p.comments) :=
  ⟨rfl, sound.small, sound.comments, sound.apart⟩

variable {n : Node} (inside : n ∈ p.root.preorder)
include inside

theorem bounded_of_sound : n.span.stop ≤ (Source.mk text).size :=
  (sound.placed n inside).sliceable.bounded

theorem opening_of_sound {o : Opening} (view : n.opening? = some o) :
    o.span.start + 2 ≤ o.span.stop ∧ o.span.stop ≤ (Source.mk text).size := by
  obtain ⟨kind, _, _, _, rfl⟩ := Node.opening?_eq_some view
  exact ⟨sound.enclosed n inside (by rw [kind]; rfl), bounded_of_sound sound inside⟩

theorem element_of_sound {e : Element} (view : n.element? = some e) :
    e.opening.span.start + 2 ≤ e.opening.span.stop ∧
      e.opening.span.stop ≤ (Source.mk text).size := by
  obtain ⟨_, _, first, rest, parts, isOpening, _⟩ := Node.element?_eq_some view
  have child : first ∈ n.children := by
    rw [parts]
    exact List.mem_cons_self
  exact opening_of_sound sound (Node.preorder_trans (Node.mem_preorder_of_child child) inside)
    isOpening

theorem attribute_of_sound {o : Opening} (view : n.opening? = some o) {a : Attribute}
    (listed : a ∈ o.attributes) {value : Node} (given : a.value = some value) :
    Clear p.comments value.span.start ∧ value.span.start < value.span.stop ∧
      value.span.stop ≤ (Source.mk text).size := by
  obtain ⟨c, child, named⟩ := Node.mem_attributes view listed
  obtain ⟨kind, isPart⟩ := Node.value_mem named given
  have insideC := Node.preorder_trans (Node.mem_preorder_of_child child) inside
  have insideV := Node.preorder_trans (Node.mem_preorder_of_child isPart) insideC
  exact ⟨(sound.outside value insideV).1, sound.solid c insideC kind value isPart,
    bounded_of_sound sound insideV⟩

omit inside

/-- No rule stops at a node of a sound program. -/
theorem check_ok {v : Visit} (member : v ∈ p.root.visits) (r : RuleName) (options : r.Options) :
    check r options (.ofText text dialect path p.comments) v v.position =
      .ok (r.check options (.ofText text dialect path p.comments) v v.position) := by
  have measured : Measured (.ofText text dialect path p.comments) := measured_of_sound sound
  have inside := Visit.node_mem_preorder member
  cases r
  case jsxAlignment =>
    exact onElement_ok fun e view => alignment_ok measured (element_of_sound sound inside view).2
  case jsxCurlySpacing =>
    refine onBraces_ok ?_ ?_
    · intro span content shape
      rw [shape] at inside
      exact braceSpacing_ok (sound.enclosed _ inside rfl) measured (bounded_of_sound sound inside)
    · intro kind span argument enclosed shape
      rw [shape] at inside
      have part := Node.preorder_trans (Node.mem_preorder_of_child List.mem_cons_self) inside
      have placed := (sound.placed argument part).sliceable
      exact spreadSpacing_ok (sound.enclosed _ inside enclosed) measured
        (bounded_of_sound sound inside) (sound.outside argument part).1
        (Nat.le_trans placed.ordered placed.bounded)
  case jsxEqualsSpacing =>
    exact onOpening_ok fun o view => equalsSpacing_ok measured fun a listed value given =>
      attribute_of_sound sound inside view listed given
  case jsxNamedPropInterface => exact namedPropInterface_ok _ _
  case jsxSelfClose =>
    exact onElement_ok fun e view => selfClose_ok (element_of_sound sound inside view).1
  case jsxWhitespaceLiteral =>
    exact onText_ok (whitespaceLiteral_ok sound.small (sound.placed _ inside).sliceable)
  case jsxWrapMulitlines => exact onElement_ok fun e _ => wrapMulitlines_ok measured
  case jsxWrapMultiline =>
    refine onElement_ok fun e _ => wrapMultiline_ok measured fun paren wrapped => ?_
    obtain ⟨parent, above, form, rfl⟩ := Visit.position_eq_parenthesized_iff.mp wrapped
    obtain ⟨_, _, visited⟩ := Visit.parent?_visited member above
    refine sound.enclosed parent (Visit.node_mem_preorder visited) ?_
    rcases Node.kind_of_form? form with kind | kind <;> rw [kind] <;> rfl
  all_goals rfl

theorem checkVisit_ok {v : Visit} (member : v ∈ p.root.visits) (c : Config) :
    checkVisit c (.ofText text dialect path p.comments) v v.position =
      .ok (c.checkVisit (.ofText text dialect path p.comments) v v.position) := by
  unfold checkVisit Config.checkVisit
  rw [mapM_ok (g := fun r => match c.setting r with
    | some options => r.check options (.ofText text dialect path p.comments) v v.position
    | none => [])]
  · rw [ok_bind, List.flatMap_def]
    rfl
  · intro r _
    cases c.setting r with
    | none => rfl
    | some options => exact check_ok sound member r options

theorem run_ok (c : Config) :
    run c text dialect path p = .ok (
      if c.needsResolution then c.checkBoth (.ofText text dialect path p.comments) p.root
      else c.check (.ofText text dialect path p.comments) p.root) := by
  have visits : (Walk.findings (fun v position =>
      [checkVisit c (.ofText text dialect path p.comments) v position]) p.root).mapM id =
        .ok (p.root.visits.map fun v =>
          c.checkVisit (.ofText text dialect path p.comments) v v.position) := by
    rw [Walk.findings_eq, ← List.map_eq_flatMap, List.mapM_map]
    exact mapM_ok fun v member => checkVisit_ok sound member c
  have first : (p.root.visits.map fun v =>
      c.checkVisit (.ofText text dialect path p.comments) v v.position).flatten =
        (c.check (.ofText text dialect path p.comments) p.root).diagnostics := by
    rw [Config.check, Walk.findings_eq, List.flatMap_def]
  rw [run, lineIndex_ok sound.small, ok_bind]
  dsimp only
  rw [show (⟨⟨text⟩, dialect, path, .ofSource ⟨text⟩, p.comments⟩ : Document) =
    .ofText text dialect path p.comments from rfl, visits, ok_bind, first]
  cases c.needsResolution <;> rfl

end Sound

/-- On a sound program no step of a run stops, and the report is the one of the run without such steps,
which for the program that a parser gives of a file is what linting the file gives. -/
theorem guarded_run_ok {text : String} {program : Program} (sound : program.Sound ⟨text⟩) :
    (∀ (c : Config) (dialect : Dialect) (path : Option String),
      run c text dialect path program = .ok (
        let doc := Document.ofText text dialect path program.comments
        if c.needsResolution then c.checkBoth doc program.root else c.check doc program.root)) ∧
    ∀ {ε : Type} (parse : Source → Dialect → Except ε Program) (c : Config) (filename : String),
      parse ⟨text⟩ (FileName.dialect filename) = .ok program →
        ∃ report, run c text (FileName.dialect filename) (some filename) program = .ok report ∧
          lintWith parse text filename c = .ok report := by
  refine ⟨fun c dialect path => run_ok sound c, fun parse c filename parsed => ?_⟩
  exact ⟨_, run_ok sound c, lint_eq_of_parse c parsed⟩

/-- A text in which every rule that computes with offsets has something to look at. -/
def offsetsText : String :=
  "interface B \x7b\x7d; (\n<a b /*=*/ = \x7b c \x7d \x7b /*...*/ ...d \x7d>&nbsp;<i></i>\n</a>)"

/-- The rules that compute with offsets run, and space around `=` and inside braces is refused. -/
def offsetRules : Config :=
  ([.jsxAlignment, .jsxNamedPropInterface, .jsxSelfClose, .jsxWhitespaceLiteral,
    .jsxWrapMulitlines, .jsxWrapMultiline].foldl Config.enable Config.empty
    |>.put .jsxEqualsSpacing (some ⟨some .never⟩)).put .jsxCurlySpacing (some ⟨some .never⟩)

set_option maxRecDepth 100000 in
theorem guarded_run_ok_of_offsetsText :
    ∃ program, Program.parse ⟨offsetsText⟩ (FileName.dialect "x/A.tsx") = .ok program ∧
      program.Sound ⟨offsetsText⟩ ∧ program.comments = [⟨23, 28⟩, ⟨39, 46⟩] ∧
      ∃ report, run offsetRules offsetsText (FileName.dialect "x/A.tsx") (some "x/A.tsx") program =
          .ok report ∧ lint offsetsText "x/A.tsx" offsetRules = .ok report ∧
        report.diagnostics.map Diagnostic.span =
          [⟨0, 14⟩, ⟨72, 73⟩, ⟨28, 29⟩, ⟨30, 31⟩, ⟨31, 32⟩, ⟨35, 36⟩, ⟨37, 38⟩, ⟨52, 53⟩, ⟨54, 60⟩,
            ⟨60, 67⟩] := by
  have parsed : ∃ program,
      Program.parse ⟨offsetsText⟩ (FileName.dialect "x/A.tsx") = .ok program ∧
        program.Sound ⟨offsetsText⟩ ∧ program.comments = [⟨23, 28⟩, ⟨39, 46⟩] ∧
        (offsetRules.check (.ofText offsetsText (FileName.dialect "x/A.tsx") (some "x/A.tsx")
          program.comments) program.root).diagnostics.map Diagnostic.span =
            [⟨0, 14⟩, ⟨72, 73⟩, ⟨28, 29⟩, ⟨30, 31⟩, ⟨31, 32⟩, ⟨35, 36⟩, ⟨37, 38⟩, ⟨52, 53⟩, ⟨54, 60⟩,
              ⟨60, 67⟩] :=
    Program.exists_parse (by decide +kernel)
  obtain ⟨program, parsed, sound, comments, spans⟩ := parsed
  obtain ⟨plain, linting⟩ := guarded_run_ok sound
  obtain ⟨report, ended, linted⟩ := linting Program.parse offsetRules "x/A.tsx" parsed
  obtain rfl := Except.ok.inj
    (ended.symm.trans (plain offsetRules (FileName.dialect "x/A.tsx") (some "x/A.tsx")))
  exact ⟨program, parsed, sound, comments, _, ended, linted, spans⟩

end Guarded

end JsxCheck
