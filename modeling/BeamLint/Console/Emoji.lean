import BeamLint.Console.Emoji.Table
import BeamLint.Text.Case
import BeamLint.Text.Words

/-!
# Emoji by name

A name between colons stands for an emoji, in whatever case. After the name, `-text` and `-emoji`
ask for one of its two forms. A name that no emoji has stays as it is written.
-/

namespace BeamLint.Console

/-- The value of a hexadecimal digit in lower case. -/
def hexValue (c : Char) : Nat :=
  if c.isDigit then c.toNat - '0'.toNat else c.toNat - 'a'.toNat + 10

/-- The character with the given code point in hexadecimal. -/
def charOfHex (digits : List Char) : Char :=
  Char.ofNat (digits.foldl (fun n d => 16 * n + hexValue d) 0)

/-- The emoji with the given name, in lower case. -/
def emoji? (name : List Char) : Option (List Char) :=
  (Text.words emojiTable.toList).findSome? fun entry =>
    if entry.takeWhile (· ≠ '=') = name then
      some ((Text.splitOn '.' (entry.dropWhile (· ≠ '=')).tail).map charOfHex)
    else none

/-- The forms that can be asked for: what is written after the name, and the character that selects
the form. -/
def emojiForms : List (List Char × Char) :=
  [("-text".toList, Char.ofNat 0xFE0E), ("-emoji".toList, Char.ofNat 0xFE0F)]

/-- A name and the characters that select a form, from what stands between the colons. -/
def emojiForm (code : List Char) : List Char × List Char :=
  match emojiForms.find? fun (ending, _) => ending.isSuffixOf code with
  | some (ending, selector) => (code.take (code.length - ending.length), [selector])
  | none => (code, [])

/-- What is shown for the name between colons. -/
def emojiOfCode (code : List Char) : List Char :=
  let (name, selector) := emojiForm code
  match emoji? (Text.lower name) with
  | some emoji => emoji ++ selector
  | none => ':' :: code ++ [':']

/-- Finds what stands between two colons without a blank; what is read is what is shown for it. -/
def emojiRecognizer : Text.Recognizer (List Char) := fun _ text =>
  match text with
  | ':' :: rest =>
    let code := rest.takeWhile fun c => c ≠ ':' && !Text.isBlank c
    if (rest.drop code.length).head? = some ':' then some (code.length + 2, emojiOfCode code)
    else none
  | _ => none

/-- The text with emoji for their names. -/
def replaceEmoji (text : List Char) : List Char := Text.replaceFound emojiRecognizer text

end BeamLint.Console
