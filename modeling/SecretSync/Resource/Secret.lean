import SecretSync.Resource.Meta
import SecretSync.Text.Utf8

namespace SecretSync

open Text (Bytes)

structure Secret where
  metadata : Meta
  data : Option (Table String Bytes)
  stringData : Option (Table String String)
  type : Option String
  immutable : Option Bool
  deriving DecidableEq

namespace Secret

def empty : Secret := ⟨Meta.empty, none, none, none, none⟩

instance : Inhabited Secret := ⟨empty⟩

/-- Moves the texts into the data, over entries of the same key. -/
def folded (s : Secret) : Secret :=
  match s.stringData with
  | none => s
  | some texts =>
    { s with
      data := some (texts.entries.foldl (fun t e => t.insert e.1 (Text.Utf8.encode e.2))
        (s.data.getD Table.empty))
      stringData := none }

/-- The value under a key, from the data first. Broken bytes read as replacement characters. -/
def value? (s : Secret) (key : String) : Option String :=
  match s.data.bind fun d => d.get? key with
  | some bytes => some (Text.Utf8.decodeLossy bytes)
  | none => s.stringData.bind fun d => d.get? key

/-- The value under a key of the data, if its bytes are a text. -/
def text? (s : Secret) (key : String) : Option String :=
  (s.data.bind fun d => d.get? key).bind Text.Utf8.decode?

end Secret

end SecretSync
