/-!
# JSON values

Members of an object keep their order, and a key may come twice; what that means is for the reader of
the value to say. A number keeps its written form.
-/

namespace PathShell
namespace Json

inductive Value where
  | null
  | bool (value : Bool)
  | number (text : String)
  | string (text : String)
  | array (items : List Value)
  | object (members : List (String × Value))

/-- A natural number. -/
def Value.ofNat (n : Nat) : Value := .number (String.ofList (Nat.toDigits 10 n))

end Json
end PathShell
