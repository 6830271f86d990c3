import ApprovalWatch.Assoc

/-!
# Trees of settings

What a settings file holds once it is read: scalars, arrays and tables. The keys of a table are
distinct. A tree laid over another replaces what it speaks of and leaves the rest.

Main results:

* `merge_of_not_table`: what is not a table replaces whatever it is laid over.
-/

namespace ApprovalWatch

/-- A value of a settings file. Nothing reads a number with a fraction, so it is kept as written;
a date or time is kept in its normal form. -/
inductive Tree where
  | string (value : String)
  | integer (value : Int)
  | float (literal : String)
  | boolean (value : Bool)
  | datetime (text : String)
  | array (items : List Tree)
  | table (entries : List (String × Tree))
  deriving Repr

namespace Tree

/-- The value of a key, if the tree is a table. -/
def get? (k : String) : Tree → Option Tree
  | table es => Assoc.get? k es
  | _ => none

mutual

/-- The tree `base` with another laid over it: tables key by key, anything else replaces
(`merge`). -/
def merge (base : Tree) : Tree → Tree
  | table overlay =>
    match base with
    | table es => table (mergeEntries es overlay)
    | _ => table overlay
  | string s => string s
  | integer n => integer n
  | float f => float f
  | boolean b => boolean b
  | datetime d => datetime d
  | array ts => array ts

/-- The entries of a table with those of another laid over them, one after the other (the loop of
`merge` over the keys). -/
def mergeEntries (base : List (String × Tree)) : List (String × Tree) → List (String × Tree)
  | [] => base
  | (k, t) :: overlay =>
    let merged :=
      match Assoc.get? k base with
      | some old => merge old t
      | none => t
    mergeEntries (Assoc.set k merged base) overlay

end

theorem merge_of_not_table {base overlay : Tree} (h : ∀ es, overlay ≠ table es) :
    merge base overlay = overlay := by
  cases overlay with
  | table es => exact absurd rfl (h es)
  | _ => simp [merge]

/-! ## Reading scalars -/

/-- A text. A date or time is read as its normal form. -/
def asString? : Tree → Option String
  | string s => some s
  | datetime d => some d
  | _ => none

/-- A whole number below a bound. -/
def asNat? (bound : Nat) : Tree → Option Nat
  | integer n => if 0 ≤ n ∧ n < bound then some n.toNat else none
  | _ => none

/-- A truth value. -/
def asBool? : Tree → Option Bool
  | boolean b => some b
  | _ => none

/-- A list of texts. -/
def asStrings? : Tree → Option (List String)
  | array ts => ts.mapM asString?
  | _ => none

/-- A table of texts. -/
def asStringPairs? : Tree → Option (List (String × String))
  | table es => es.mapM fun (k, t) => (asString? t).map (k, ·)
  | _ => none

/-! ## Reading sections -/

/-- The fields of a section: a table gives them by name, an array in the order of their names. -/
def fields? (names : List String) : Tree → Option (List (String × Tree))
  | table es => some es
  | array ts => if ts.length ≤ names.length then some (names.zip ts) else none
  | _ => none

/-- A field as the reader `read` takes it, or the default where the section does not speak of it. -/
def field {α : Type} (fields : List (String × Tree)) (name : String) (default : α)
    (read : Tree → Option α) : Option α :=
  match Assoc.get? name fields with
  | some t => read t
  | none => some default

end Tree

end ApprovalWatch
