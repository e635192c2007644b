import RequestLayer.Json.Value

set_option autoImplicit false

namespace RequestLayer.Json

-- Null stands for an absent value.
def present? : Option Json → Option Json
  | some .null => none
  | value => value

def integer? : Json → Option Int
  | .number (.integer value) => some value
  | _ => none

def items : Json → List Json
  | .array items => items
  | _ => []

def texts (value : Json) : List String :=
  value.items.filterMap string?

def fieldAt (value : Json) (key : String) : Json :=
  (value.field? key).getD .null

def presentAt? (value : Json) (key : String) : Option Json :=
  present? (value.field? key)

def textAt (value : Json) (key : String) : String :=
  ((value.fieldAt key).string?).getD ""

def wordAt (value : Json) (key : String) (otherwise : Nat := 0) : Nat :=
  ((value.fieldAt key).word?).getD otherwise

def itemsAt (value : Json) (key : String) : List Json :=
  (value.fieldAt key).items

def textsAt (value : Json) (key : String) : List String :=
  (value.fieldAt key).texts

def fieldsAt (value : Json) (key : String) : Fields :=
  ((value.fieldAt key).fields?).getD []

end RequestLayer.Json
