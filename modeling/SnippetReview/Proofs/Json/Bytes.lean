import SnippetReview.Json.Bytes
import SnippetReview.Proofs.Json.Fields
import SnippetReview.Proofs.Utf8

namespace SnippetReview.Json

theorem readBytes?_encode (text : Text) : readBytes? (Utf8.encode text) = read? text := by
  rw [readBytes?, Utf8.decode?_encode]

theorem readBytes?_write {value : Json} (h : IsWritten value) :
    readBytes? (Utf8.encode value.write) = some value := by
  rw [readBytes?_encode, read?_write h]

end SnippetReview.Json
