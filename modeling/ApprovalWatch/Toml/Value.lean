import ApprovalWatch.Toml.Assembly
import ApprovalWatch.Toml.Moment
import ApprovalWatch.Toml.Number
import ApprovalWatch.Toml.Text

/-!
# Values

Texts, numbers, truth values, dates and times, and arrays and tables of values. An array may go over
several lines and have a comma after its last item; a table in braces may not.
-/

namespace ApprovalWatch.Toml

/-- A number, a date or a time. -/
def numeric? : Reader Tree := fun cs =>
  match moment? cs with
  | some (m, r) => some (.datetime m, r)
  | none =>
    match (float? cs).orElse fun _ => special? cs with
    | some (f, r) => some (.float f, r)
    | none => (integer? cs).map fun p => (.integer p.1, p.2)

/-- A truth value. -/
def boolean? : Reader Tree
  | 't' :: 'r' :: 'u' :: 'e' :: r => some (.boolean true, r)
  | 'f' :: 'a' :: 'l' :: 's' :: 'e' :: r => some (.boolean false, r)
  | _ => none

/-- The items of an array, up to its closing bracket. -/
def items? (item : Reader Tree) (cs : List Char) : Option (List Tree × List Char) :=
  match dropFiller cs with
  | ']' :: r => some ([], r)
  | rest =>
    match item rest with
    | none => none
    | some (t, r) =>
      match dropFiller r with
      | ']' :: r => some ([t], r)
      | ',' :: r =>
        if r.length < cs.length then (items? item r).map fun p => (t :: p.1, p.2) else none
      | _ => none
termination_by cs.length

/-- A pair of a key and a value. -/
def pair? (value : Reader Tree) : Reader ((List String × String) × Tree) := fun cs =>
  match key? cs with
  | some (k, '=' :: r) => (value (dropBlank r)).map fun p => ((k, p.1), p.2)
  | _ => none

/-- The pairs of a table in braces, up to its closing brace. At least one is there. -/
def pairs? (value : Reader Tree) (cs : List Char) :
    Option (List ((List String × String) × Tree) × List Char) :=
  match pair? value cs with
  | none => none
  | some (p, r) =>
    match dropBlank r with
    | '\x7d' :: r => some ([p], r)
    | ',' :: r =>
      if r.length < cs.length then (pairs? value r).map fun q => (p :: q.1, q.2) else none
    | _ => none
termination_by cs.length

/-- The table of pairs. -/
def assemble? (ps : List ((List String × String) × Tree)) : Option Tree :=
  (ps.foldlM (fun es p => Node.assign p.1.1 p.1.2 (.value p.2) es) []).map fun es =>
    Node.toTree (.table .explicit es)

/-- A value with at most the given number of arrays and tables within each other. -/
def value? : Nat → Reader Tree
  | 0, _ => none
  | depth + 1, cs =>
    match cs with
    | [] => none
    | c :: r =>
      if c = '"' ∨ c = '\'' then (text? cs).map fun p => (.string p.1, p.2)
      else if c = '[' then (items? (value? depth) r).map fun p => (.array p.1, p.2)
      else if c = '\x7b' then
        match dropBlank r with
        | '\x7d' :: r => some (.table [], r)
        | r => (pairs? (value? depth) r).bind fun p => (assemble? p.1).map (·, p.2)
      else if c = 't' ∨ c = 'f' then boolean? cs
      else numeric? cs

end ApprovalWatch.Toml
