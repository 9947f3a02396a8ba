import ScriptVeil.Text.Blank
import ScriptVeil.Text.WordChar

namespace ScriptVeil.Masking

def blockOpeners : List Text :=
  ["else", "do", "try", "finally"].map String.toList

/-- Whether a brace behind the given text, read backwards, opens a block and not an object. -/
def opensBlock (back : Text) : Bool :=
  match back.trimStart with
  | [] => true
  | '>' :: '=' :: _ => true
  | c :: t =>
    [')', ';', '{', '}'].contains c
      || blockOpeners.contains ((c :: t).takeWhile isWordChar).reverse

/-- Behind a dot that does not belong to a spread. -/
def isMemberName (back : Text) : Bool :=
  match back.trimStart with
  | '.' :: '.' :: '.' :: _ => false
  | '.' :: _ => true
  | _ => false

/-- In front of a colon, and behind a comma or a brace that opens an object. -/
def isObjectKey (back after : Text) : Bool :=
  after.trimStart.head? = some ':' &&
    match back.trimStart with
    | '{' :: outer => !opensBlock outer
    | c :: _ => c = ','
    | [] => false

/-- Replaces the words equal to `name` in `t`, where `back` is the text before `t` backwards. -/
def replaceWordFrom (name mask : Text) (keepKeys : Bool) (back t : Text) : Text :=
  match t with
  | [] => []
  | c :: t =>
    if isWordChar c then
      let word := c :: t.takeWhile isWordChar
      let after := t.dropWhile isWordChar
      let kept := keepKeys && (isMemberName back || isObjectKey back after)
      (if word = name && !kept then mask else word)
        ++ replaceWordFrom name mask keepKeys (word.reverse ++ back) after
    else c :: replaceWordFrom name mask keepKeys (c :: back) t
termination_by t.length
decreasing_by
  · have : (t.dropWhile isWordChar).length ≤ t.length := (List.dropWhile_sublist _).length_le
    simp only [List.length_cons]
    omega
  · simp

/-- Replaces every word equal to `name`, with `keepKeys` only outside member names and object
keys. -/
def replaceWord (name mask : Text) (keepKeys : Bool) (t : Text) : Text :=
  replaceWordFrom name mask keepKeys [] t

end ScriptVeil.Masking
