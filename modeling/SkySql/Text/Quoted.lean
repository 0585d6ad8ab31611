set_option autoImplicit false

/-!
SQL string literals: the value stands between two quotes, and a quote inside it is written twice.
-/

namespace SkySql.Text

def doubleQuotes : List Char → List Char
  | [] => []
  | c :: rest => if c = '\x27' then '\x27' :: '\x27' :: doubleQuotes rest else c :: doubleQuotes rest

def quote (text : String) : String := "'" ++ String.ofList (doubleQuotes text.toList) ++ "'"

@[simp] theorem toList_quote (text : String) :
    (quote text).toList = '\x27' :: (doubleQuotes text.toList ++ ['\x27']) := by
  simp [quote]

end SkySql.Text
