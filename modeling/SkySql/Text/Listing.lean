set_option autoImplicit false

/-!
Texts written one after another with a separator between neighbours.
-/

namespace SkySql.Text

def separated (separator : String) : List String → String
  | [] => ""
  | [text] => text
  | text :: next :: rest => text ++ separator ++ separated separator (next :: rest)

def commaList (texts : List String) : String := separated ", " texts

@[simp] theorem commaList_nil : commaList [] = "" := rfl

@[simp] theorem commaList_singleton (text : String) : commaList [text] = text := rfl

theorem commaList_cons_cons (text next : String) (rest : List String) :
    commaList (text :: next :: rest) = text ++ ", " ++ commaList (next :: rest) := rfl

end SkySql.Text
