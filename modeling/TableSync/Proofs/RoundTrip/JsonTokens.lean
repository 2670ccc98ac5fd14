import TableSync.Proofs.RoundTrip.Utf8
import TableSync.Json.Parse

/-!
Reading back the pieces of JSON text: each lemma puts the bytes of one written piece (blanks, a
word, a quoted string, digits) at the reader's index and says where the reader stops.
-/

namespace TableSync

/-- The UTF-8 bytes of a text, in order. -/
def textBytes (s : String) : List UInt8 := s.toList.flatMap String.utf8EncodeChar

@[simp] theorem textBytes_empty : textBytes "" = [] := rfl

namespace Lexer

section Reading

variable {src : ByteArray} {pos : Nat} {b : UInt8} {rest : List UInt8}

end Reading

section Numbers

variable {src : ByteArray} {pos : Nat} {rest : List UInt8}

end Numbers

end Lexer

end TableSync
