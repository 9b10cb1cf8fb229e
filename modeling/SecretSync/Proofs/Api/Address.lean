import SecretSync.Api.Exchange
import SecretSync.Proofs.Resource.KeyText
import SecretSync.Resource.Definition
import Mathlib.Data.List.TakeWhile

namespace SecretSync

namespace Uri

def isSegment (s : String) : Bool := s ≠ "" && s.toList.all fun c => inPath c && c ≠ '/'

theorem ne_of_inPath {c : Char} (there : inPath c) : c ≠ '?' ∧ c ≠ '#' := by
  constructor <;>
  · rintro rfl
    revert there
    decide

theorem ne_of_inQuery {c : Char} (there : inQuery c) : c ≠ '#' := by
  rintro rfl
  revert there
  decide

theorem no_slash_of_isSegment {s : String} (segment : isSegment s) : '/' ∉ s.toList := by
  intro inside
  rw [isSegment, Bool.and_eq_true, List.all_eq_true] at segment
  simpa using segment.2 '/' inside

theorem inPath_of_isSegment {s : String} (segment : isSegment s) : ∀ c ∈ s.toList, inPath c := by
  rw [isSegment, Bool.and_eq_true, List.all_eq_true] at segment
  intro c inside
  exact (Bool.and_eq_true_iff.1 (segment.2 c inside)).1

variable {path query : List Char}

theorem takeWhile_path (plain : ∀ c ∈ path, inPath c) (rest : List Char) :
    (path ++ '?' :: rest).takeWhile (· ≠ '?') = path := by
  rw [List.takeWhile_append_of_pos fun c inside => by simpa using (ne_of_inPath (plain c inside)).1]
  simp

theorem sent_route (plain : ∀ c ∈ path, inPath c) (asked : ∀ c ∈ query, inQuery c) :
    (route (path ++ '?' :: query)).toOption.map sent =
      some (String.ofList (path ++ '?' :: query)) := by
  have whole : (path ++ '?' :: query).takeWhile (· ≠ '#') = path ++ '?' :: query := by
    refine List.takeWhile_eq_self_iff.2 fun c inside => ?_
    obtain inside | inside := List.mem_append.1 inside
    · simpa using (ne_of_inPath (plain c inside)).2
    · obtain rfl | inside := List.mem_cons.1 inside
      · rfl
      · simpa using ne_of_inQuery (asked c inside)
  have allowed : (path.all inPath && query.all inQuery) = true :=
    Bool.and_eq_true_iff.2 ⟨List.all_eq_true.2 plain, List.all_eq_true.2 asked⟩
  simp only [route, whole, takeWhile_path plain, List.drop_left, List.drop_one, List.tail_cons,
    allowed, if_true]
  exact congrArg some (String.ofList_append ..).symm

theorem sent_parse {target : String} (text : target.toList = '/' :: path ++ '?' :: query)
    (plain : ∀ c ∈ path, inPath c) (asked : ∀ c ∈ query, inQuery c)
    (short : target.utf8ByteSize ≤ longest) : (parse target).toOption.map sent = some target := by
  have rooted : ∀ c ∈ '/' :: path, inPath c := List.forall_mem_cons.2 ⟨rfl, plain⟩
  have parsed : parse target = route ('/' :: path ++ '?' :: query) := by
    rw [parse, if_neg (Nat.not_lt.2 short), text]
    rfl
  rw [parsed, sent_route rooted asked, ← text, String.ofList_toList]

def pathOf (segments : List String) : List Char := segments.flatMap fun s => '/' :: s.toList

theorem pathOf_append (front back : List String) :
    pathOf (front ++ back) = pathOf front ++ pathOf back := List.flatMap_append

theorem pathOf_cons (s : String) (rest : List String) :
    pathOf (s :: rest) = '/' :: (s.toList ++ pathOf rest) := rfl

theorem parts_pathOf {segments : List String} (plain : ∀ s ∈ segments, '/' ∉ s.toList) :
    Key.parts (pathOf segments) = [] :: segments.map String.toList := by
  induction segments with
  | nil => rfl
  | cons s rest ih =>
    obtain ⟨first, plain⟩ := List.forall_mem_cons.1 plain
    have more := ih plain
    have opened : Key.parts (pathOf (s :: rest)) = [] :: Key.parts (s.toList ++ pathOf rest) := rfl
    rw [opened, List.map_cons]
    cases rest with
    | nil => rw [pathOf, List.flatMap_nil, List.append_nil, Key.parts_plain first, List.map_nil]
    | cons t rest =>
      have slash : pathOf (t :: rest) = '/' :: (t.toList ++ pathOf rest) := rfl
      rw [slash, Key.parts_slash first, ← (List.cons.inj more).2]
      rfl

def segments (target : String) : List String :=
  (Key.parts (target.toList.takeWhile (· ≠ '?'))).map String.ofList

variable {target : String} {l : List String}

theorem inPath_pathOf (plain : ∀ s ∈ l, isSegment s) : ∀ c ∈ pathOf l, inPath c := by
  intro c inside
  obtain ⟨s, there, inside⟩ := List.mem_flatMap.1 inside
  obtain rfl | inside := List.mem_cons.1 inside
  · rfl
  · exact inPath_of_isSegment (plain s there) c inside

/-- A target is sent as it is, and its path has certain segments. -/
structure Reaches (target : String) (l : List String) : Prop where
  sent : (parse target).toOption.map sent = some target
  segments : segments target = "" :: l

theorem reaches_of_text {s : String} (text : target.toList = pathOf (s :: l) ++ '?' :: query)
    (plain : ∀ t ∈ s :: l, isSegment t) (asked : ∀ c ∈ query, inQuery c)
    (short : target.utf8ByteSize ≤ longest) : Reaches target (s :: l) where
  sent := by
    have inside := inPath_pathOf plain
    exact sent_parse (text.trans rfl) (fun c there => inside c (List.mem_cons_of_mem _ there))
      asked short
  segments := by
    rw [segments, text, takeWhile_path (inPath_pathOf plain),
      parts_pathOf fun s there => no_slash_of_isSegment (plain s there)]
    simp

end Uri

structure Key.Addressable (k : Key) : Prop where
  space : Uri.isSegment k.space
  name : Uri.isSegment k.name
  short : k.space.utf8ByteSize + k.name.utf8ByteSize ≤ 65000

namespace Exchange

def secretsSegments (space : String) : List String := ["api", "v1", "namespaces", space, "secrets"]

def secretSegments (k : Key) : List String :=
  ["api", "v1", "namespaces", k.space, "secrets", k.name]

def statusSegments (k : Key) : List String :=
  ["apis", Binding.group, Binding.version, "namespaces", k.space, Binding.plural, k.name, "status"]

theorem toList_secretsPath (space rest : String) :
    (secretsPath space ++ rest).toList = Uri.pathOf (secretsSegments space) ++ rest.toList := by
  have front : "/api/v1/namespaces/".toList = Uri.pathOf ["api", "v1", "namespaces"] ++ ['/'] := by
    decide
  have back : "/secrets".toList = Uri.pathOf ["secrets"] := by decide
  have parted : Uri.pathOf (secretsSegments space) =
      Uri.pathOf ["api", "v1", "namespaces"] ++ '/' :: (space.toList ++ Uri.pathOf ["secrets"]) := by
    rw [← Uri.pathOf_cons space, ← Uri.pathOf_append]
    rfl
  unfold secretsPath
  rw [String.toList_append, String.toList_append, String.toList_append, front, back, parted]
  simp only [List.append_assoc, List.cons_append, List.nil_append]

theorem toList_secretPath (k : Key) (rest : String) :
    (secretPath k ++ rest).toList = Uri.pathOf (secretSegments k) ++ rest.toList := by
  change _ = Uri.pathOf (secretsSegments k.space ++ [k.name]) ++ _
  have slash : "/".toList = ['/'] := by decide
  unfold secretPath
  rw [String.append_assoc, String.append_assoc, toList_secretsPath, String.toList_append,
    String.toList_append, slash, Uri.pathOf_append, Uri.pathOf_cons]
  simp only [List.append_assoc, List.cons_append, List.nil_append, Uri.pathOf, List.flatMap_nil]

theorem toList_statusPath (k : Key) (rest : String) :
    (statusPath k.space k.name ++ rest).toList = Uri.pathOf (statusSegments k) ++ rest.toList := by
  have front : ("/apis/" ++ Binding.apiVersion ++ "/namespaces/").toList =
      Uri.pathOf ["apis", Binding.group, Binding.version, "namespaces"] ++ ['/'] := by
    decide +kernel
  have middle : "/azurekeyvaultsecrets/".toList = Uri.pathOf [Binding.plural] ++ ['/'] := by
    decide +kernel
  have back : "/status".toList = Uri.pathOf ["status"] := by decide
  have parted : Uri.pathOf (statusSegments k) =
      Uri.pathOf ["apis", Binding.group, Binding.version, "namespaces"] ++
        '/' :: (k.space.toList ++ (Uri.pathOf [Binding.plural] ++
          '/' :: (k.name.toList ++ Uri.pathOf ["status"]))) := by
    rw [← Uri.pathOf_cons k.name, ← Uri.pathOf_append, ← Uri.pathOf_cons k.space,
      ← Uri.pathOf_append]
    rfl
  unfold statusPath
  rw [String.toList_append, String.toList_append, String.toList_append, String.toList_append,
    String.toList_append, front, middle, back, parted]
  simp only [List.append_assoc, List.cons_append, List.nil_append]

theorem request?_of_reaches {target : String} {l : List String} (reaches : Uri.Reaches target l)
    (method : Method) (contentType : String) (body : Json) :
    request? method target contentType body = some ⟨method, target, contentType, body⟩ := by
  have sent := congrArg (Option.map fun t => HttpRequest.mk method t contentType body) reaches.sent
  rw [Option.map_map] at sent
  exact sent

variable {k : Key} (addressable : k.Addressable)
include addressable

theorem reaches_secrets : Uri.Reaches (secretsPath k.space ++ "?") (secretsSegments k.space) := by
  refine Uri.reaches_of_text (toList_secretsPath k.space "?") ?_ nofun ?_
  · simp only [List.forall_mem_cons]
    exact ⟨by decide, by decide, by decide, addressable.space, by decide, nofun⟩
  · have bound := addressable.short
    unfold secretsPath Uri.longest
    simp only [String.utf8ByteSize_append]
    have front : "/api/v1/namespaces/".utf8ByteSize = 19 := rfl
    have back : "/secrets".utf8ByteSize = 8 := rfl
    have mark : "?".utf8ByteSize = 1 := rfl
    omega

theorem reaches_secret : Uri.Reaches (secretPath k ++ "?") (secretSegments k) := by
  refine Uri.reaches_of_text (toList_secretPath k "?") ?_ nofun ?_
  · simp only [List.forall_mem_cons]
    exact ⟨by decide, by decide, by decide, addressable.space, by decide, addressable.name, nofun⟩
  · have bound := addressable.short
    unfold secretPath secretsPath Uri.longest
    simp only [String.utf8ByteSize_append]
    have front : "/api/v1/namespaces/".utf8ByteSize = 19 := rfl
    have middle : "/secrets".utf8ByteSize = 8 := rfl
    have slash : "/".utf8ByteSize = 1 := rfl
    have mark : "?".utf8ByteSize = 1 := rfl
    omega

theorem reaches_status :
    Uri.Reaches (statusPath k.space k.name ++ "?&fieldManager=" ++ controllerName)
      (statusSegments k) := by
  have query : ("?&fieldManager=" ++ controllerName).toList =
      '?' :: "&fieldManager=azure-keyvault-controller".toList := by decide +kernel
  have asked : "&fieldManager=azure-keyvault-controller".toList.all Uri.inQuery = true := by
    decide +kernel
  rw [String.append_assoc]
  refine Uri.reaches_of_text ((toList_statusPath k _).trans (congrArg _ query)) ?_ ?_ ?_
  · simp only [List.forall_mem_cons]
    exact ⟨by decide, by decide, by decide, by decide, addressable.space, by decide,
      addressable.name, by decide, nofun⟩
  · exact List.all_eq_true.1 asked
  · have bound := addressable.short
    unfold statusPath Uri.longest
    simp only [String.utf8ByteSize_append]
    have front : "/apis/".utf8ByteSize = 6 := rfl
    have group : Binding.apiVersion.utf8ByteSize = 41 := rfl
    have spaces : "/namespaces/".utf8ByteSize = 12 := rfl
    have plural : "/azurekeyvaultsecrets/".utf8ByteSize = 22 := rfl
    have back : "/status".utf8ByteSize = 7 := rfl
    have mark : "?&fieldManager=".utf8ByteSize = 15 := rfl
    have manager : controllerName.utf8ByteSize = 25 := rfl
    omega

theorem objectRequest?_of_reaches {target : String} {l : List String}
    (reaches : Uri.Reaches target l) (method : Method) (contentType : String) (body : Json) :
    objectRequest? k method target contentType body = some ⟨method, target, contentType, body⟩ := by
  have named : k.name ≠ "" := of_decide_eq_true (Bool.and_eq_true_iff.1 addressable.name).1
  rw [objectRequest?, if_neg named, request?_of_reaches reaches]

end Exchange

end SecretSync
