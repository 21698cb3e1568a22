/-!
# Text in bytes

Bytes are read as characters of one to four bytes. Where they are no character, the longest run
that starts one is taken as a unit without a character; a byte that starts none is a unit of its
own.
-/

namespace StructLang.Text

/-- How a character goes on after its first byte: how many bytes follow, and the bounds of the
first of them. The others lie between 80 and BF. -/
structure Utf8Form where
  following : Nat
  least : Nat
  greatest : Nat
  deriving DecidableEq, Repr

/-- How a character with a given first byte goes on. -/
def utf8Form? (lead : Nat) : Option Utf8Form :=
  if lead < 0x80 then some ⟨0, 0x80, 0xBF⟩
  else if lead < 0xC2 then none
  else if lead < 0xE0 then some ⟨1, 0x80, 0xBF⟩
  else if lead = 0xE0 then some ⟨2, 0xA0, 0xBF⟩
  else if lead = 0xED then some ⟨2, 0x80, 0x9F⟩
  else if lead < 0xF0 then some ⟨2, 0x80, 0xBF⟩
  else if lead = 0xF0 then some ⟨3, 0x90, 0xBF⟩
  else if lead < 0xF4 then some ⟨3, 0x80, 0xBF⟩
  else if lead = 0xF4 then some ⟨3, 0x80, 0x8F⟩
  else none

/-- The bytes that go on a character, up to a number of them. -/
def followingBytes : Nat → Nat → Nat → List Nat → List Nat
  | 0, _, _, _ => []
  | _ + 1, _, _, [] => []
  | further + 1, least, greatest, byte :: rest =>
      if least ≤ byte ∧ byte ≤ greatest then byte :: followingBytes further 0x80 0xBF rest
      else []

/-- The code point that a first byte and those after it stand for. -/
def codePoint (lead : Nat) (following : List Nat) : Nat :=
  let leadBits :=
    match following.length with
    | 0 => lead
    | 1 => lead - 0xC0
    | 2 => lead - 0xE0
    | _ => lead - 0xF0
  following.foldl (fun value byte => 64 * value + (byte - 0x80)) leadBits

/-- The units of a run of bytes: a character, or nothing where the bytes are none. -/
def utf8Units (bytes : List Nat) : List (Option Char) :=
  match bytes with
  | [] => []
  | lead :: rest =>
      match utf8Form? lead with
      | none => none :: utf8Units rest
      | some form =>
          let following := followingBytes form.following form.least form.greatest rest
          let unit :=
            if following.length = form.following then
              some (Char.ofNat (codePoint lead following))
            else none
          unit :: utf8Units (rest.drop following.length)
termination_by bytes.length
decreasing_by
  all_goals simp only [List.length_cons, List.length_drop]; omega

/-- The characters of a run of bytes, with the replacement character for units that are none. -/
def decodeLossy (bytes : List Nat) : List Char :=
  (utf8Units bytes).map (·.getD '\uFFFD')

/-- The characters of a run of bytes, if all its units are characters. -/
def decodeStrict? (bytes : List Nat) : Option (List Char) :=
  (utf8Units bytes).mapM id

end StructLang.Text
