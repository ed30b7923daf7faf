/-
Emoji written as codes, as rich replaces them. A code is a name between colons, in any mixture of small and capital
letters and without blanks; it may end in the form that is asked for, of a picture or of a letter. A code that names no
emoji stays as it is, together with its second colon.
-/
import SchemaChart.Text.Basic
import SchemaChart.Text.EmojiNames

namespace SchemaChart.Text.Emoji

/-! ## Names -/

/-- Capital letters beyond ASCII whose small letters occur in names. -/
def smallLetters : List (Char × Char) :=
  [('Ã', 'ã'), ('Å', 'å'), ('Ç', 'ç'), ('É', 'é'), ('Í', 'í'), ('Ô', 'ô'), ('\u212a', 'k'), ('\u212b', 'å')]

/-- The small letter of a letter, as far as names need it. -/
def small (c : Char) : Char := (smallLetters.lookup c).getD c.toLower

/-- What a code ends in for each form of its emoji, and the selector of the form. -/
def forms : List (String × Char) := [("-emoji", '\ufe0f'), ("-text", '\ufe0e')]

/-- The emoji that the name in a code stands for, with the selector of the form that is asked for. -/
def ofCode? (body : List Char) : Option (List Char) :=
  match forms.find? fun form => form.1.toList.isSuffixOf body with
  | some (ending, selector) =>
    (ofName? ((body.take (body.length - ending.length)).map small)).map (· ++ [selector])
  | none => ofName? (body.map small)

/-! ## Codes in a text -/

/-- What the code at the beginning stands for, and the number of its characters. -/
def code? : List Char → Option (List Char × Nat)
  | ':' :: rest =>
    let body := rest.takeWhile fun c => c != ':' && !isBlank c
    if (rest.drop body.length).head? == some ':' then
      some ((ofCode? body).getD (':' :: body ++ [':']), body.length + 2)
    else none
  | _ => none

/-- The text with emoji for its codes, where `skip` characters still belong to one. -/
def replaceFrom : (skip : Nat) → List Char → List Char
  | _, [] => []
  | skip + 1, _ :: rest => replaceFrom skip rest
  | 0, c :: rest =>
    match code? (c :: rest) with
    | some (text, length) => text ++ replaceFrom (length - 1) rest
    | none => c :: replaceFrom 0 rest

/-- The text with emoji for its codes. -/
def replaceCodes (s : List Char) : List Char := replaceFrom 0 s

end SchemaChart.Text.Emoji
