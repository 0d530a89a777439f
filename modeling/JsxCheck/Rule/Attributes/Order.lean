import JsxCheck.Rule.Options
import JsxCheck.Syntax.Element
import JsxCheck.Text.Lowercase

/-!
The order of attributes: grouped by kind, and by name within a group.

At most one diagnostic is made for an element, at the first item out of order.
-/
namespace JsxCheck

/-- How an item is written. -/
def AttributeItem.propKind : AttributeItem → PropKind
  | .spread _ _ => .spread
  | .named a => if a.value.isNone then .shorthand else .longhand

namespace Rule

namespace SortProps

/-- What the items so far leave behind: the key of the last attribute in its group, and the rank and
kind of the last item. -/
structure State where
  lastKey : Option String := none
  lastGroup : Option (Option Nat × PropKind) := none
  deriving DecidableEq, Inhabited

/-- The place of a kind in the order asked for. -/
def rank? (order : List PropKind) (kind : PropKind) : Option Nat := order.idxOf? kind

/-- What an attribute's name is sorted by. -/
def sortKey (options : SortPropsOptions) (name : String) : String :=
  if options.ignoreCase then lowerText name else name

/-- The item comes after one of a group that should follow it. -/
def isGroupedLate (state : State) (rank : Option Nat) : Option PropKind :=
  match state.lastGroup, rank with
  | some (lastRank, lastKind), some rank =>
    if lastRank.all (rank < ·) then some lastKind else none
  | _, _ => none

/-- The group of an item: an error when it comes too late, else the state in front of its name. A
new group starts with no key. -/
def enterGroup (options : SortPropsOptions) (state : State) (item : AttributeItem) :
    Except Diagnostic State :=
  match options.order with
  | none => .ok state
  | some order =>
    let kind := item.propKind
    let rank := rank? order kind
    match isGroupedLate state rank with
    | some lastKind =>
      .error (RuleName.jsxSortProps.warning item.span
        (kind.text ++ " properties should come before " ++ lastKind.text ++ " properties"))
    | none =>
      .ok {
        lastKey := if state.lastGroup.map Prod.fst = some rank then state.lastKey else none
        lastGroup := some (rank, kind) }

/-- The name of an item: an error when it sorts before the last one, else the state after it. -/
def enterName (options : SortPropsOptions) (state : State) : AttributeItem → Except Diagnostic State
  | .spread _ _ => .ok state
  | .named a =>
    let key := sortKey options a.name
    if state.lastKey.any (key < ·) then
      .error (RuleName.jsxSortProps.warning a.nameSpan
        ("The key '" ++ a.name ++ "' is not sorted alphabetically"))
    else .ok { state with lastKey := some key }

/-- The first failure among items that follow a state. -/
def firstFailure (options : SortPropsOptions) : (state : State) → List AttributeItem →
    Option Diagnostic
  | _, [] => none
  | state, item :: rest =>
    match enterGroup options state item >>= fun s => enterName options s item with
    | .error failure => some failure
    | .ok next => firstFailure options next rest

end SortProps

/-- The first item of an opening tag that is out of order. -/
def sortProps (options : SortPropsOptions) (o : Opening) : List Diagnostic :=
  (SortProps.firstFailure options {} o.items).toList

end Rule

end JsxCheck
