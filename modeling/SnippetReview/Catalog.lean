import SnippetReview.Profile.Table

namespace SnippetReview

def insertById (profile : Profile) : List Profile → List Profile
  | [] => [profile]
  | p :: rest =>
    if profile.id = p.id then profile :: rest
    else if profile.id < p.id then profile :: p :: rest
    else p :: insertById profile rest

structure Catalog where
  profiles : List Profile
  fallback : Profile

namespace Catalog

def defaultId : Text :=
  "javascript".toList

/-- The catalog of some profiles; of two with one id the later counts. -/
def ofProfiles (profiles : List Profile) : Except ProfileError Catalog :=
  let profiles := profiles.foldl (fun found p => insertById p found) []
  match profiles.find? fun p => p.id = defaultId with
  | some fallback => .ok ⟨profiles, fallback⟩
  | none => .error (.missingDefault defaultId)

def ofTables (tables : List ProfileTable) : Except ProfileError Catalog := do
  ofProfiles (← tables.mapM ProfileTable.compile)

def ofSources (sources : List Text) : Except ProfileError Catalog := do
  ofProfiles (← sources.mapM fun text => do (← ProfileTable.read text).compile)

def find? (catalog : Catalog) (id : Text) : Option Profile :=
  catalog.profiles.find? fun p => p.id = id

def contains (catalog : Catalog) (id : Text) : Bool :=
  (catalog.find? id).isSome

def get (catalog : Catalog) (id : Text) : Profile :=
  (catalog.find? id).getD catalog.fallback

def ids (catalog : Catalog) : List Text :=
  catalog.profiles.map Profile.id

end Catalog

end SnippetReview
