namespace SecretSync

/-- `api` is an answer of the API server with an error code, `transport` any other failure to get
an answer from it. -/
inductive StoreError where
  | api (code : Nat) (message : String)
  | transport
  | unavailable (text : String)
  | conflict (kind key message : String)
  | notFound (kind key : String)
  | missingField (field : String)
  deriving DecidableEq, Repr

def StoreError.message : StoreError → String
  | .api _ message => "Kubernetes API error: " ++ message
  | .transport => "Kubernetes API error: no usable answer"
  | .unavailable text => "Store unavailable: " ++ text
  | .conflict kind key message => "Conflict writing " ++ kind ++ " '" ++ key ++ "': " ++ message
  | .notFound kind key => kind ++ " '" ++ key ++ "' not found"
  | .missingField field => "Object has no " ++ field

end SecretSync
