import ApprovalWatch.Assoc

/-!
# Pages

What a session reads from its page and writes to it: input fields and attributes, texts and widths
of elements.
-/

namespace ApprovalWatch

/-- The state of a page (`StaticPage`). -/
structure Page where
  inputs : List (String × String) := []
  attributes : List ((String × String) × String) := []
  texts : List (String × String) := []
  widths : List (String × String) := []
  deriving DecidableEq, Repr

namespace Page

/-- The value of an input field, if the field exists (`input_value`). -/
def input? (p : Page) (name : String) : Option String :=
  Assoc.get? name p.inputs

/-- The value of an attribute of an element (`data_attribute`). -/
def attribute? (p : Page) (element attr : String) : Option String :=
  Assoc.get? (element, attr) p.attributes

/-- The text of an element (`text`). -/
def text? (p : Page) (element : String) : Option String :=
  Assoc.get? element p.texts

/-- The width of an element (`width`). -/
def width? (p : Page) (element : String) : Option String :=
  Assoc.get? element p.widths

/-- The page with an input field set (`set_input`). -/
def setInput (p : Page) (name value : String) : Page :=
  { p with inputs := Assoc.set name value p.inputs }

/-- The page without an input field (`remove_input`). -/
def removeInput (p : Page) (name : String) : Page :=
  { p with inputs := Assoc.erase name p.inputs }

/-- The page with an attribute set (`with_attribute`). -/
def setAttribute (p : Page) (element attr value : String) : Page :=
  { p with attributes := Assoc.set (element, attr) value p.attributes }

/-- The page with the text of an element replaced (`set_text`). -/
def setText (p : Page) (element text : String) : Page :=
  { p with texts := Assoc.set element text p.texts }

/-- The page with the width of an element set (`set_width`). -/
def setWidth (p : Page) (element width : String) : Page :=
  { p with widths := Assoc.set element width p.widths }

/-- The correlation identifier in an input field (`IdentifierResolver.resolve`). An empty field
holds none. -/
def identifier? (p : Page) (field : String) : Option String :=
  (p.input? field).filter (· ≠ "")

end Page

/-! ## Actions -/

/-- How a session leaves its page (`PageAction`). -/
inductive PageAction where
  | submit (form : String)
  | navigate (location : String)
  deriving DecidableEq, Repr

namespace PageAction

/-- The forms that are submitted (`RecordingActions.submissions`). -/
def submissions (actions : List PageAction) : List String :=
  actions.filterMap fun
    | submit form => some form
    | navigate _ => none

/-- The locations that are navigated to (`RecordingActions.navigations`). -/
def navigations (actions : List PageAction) : List String :=
  actions.filterMap fun
    | submit _ => none
    | navigate location => some location

/-- The name of the kind of action. -/
def kind : PageAction → String
  | submit _ => "submit"
  | navigate _ => "navigate"

/-- The form or the location. -/
def target : PageAction → String
  | submit form => form
  | navigate location => location

end PageAction

end ApprovalWatch
