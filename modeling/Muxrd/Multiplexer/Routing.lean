import Muxrd.Types

set_option autoImplicit false

namespace Muxrd.Routing

/-- The running backends in detection order. There is always at least one. -/
structure BackendSet (Backend : Type) where
  backends : List (BackendKind × Backend)
  nonempty : backends ≠ []

namespace BackendSet

variable {Backend : Type} (set : BackendSet Backend)

def get (kind : BackendKind) : Option Backend :=
  (set.backends.find? fun pair => pair.1 = kind).map (·.2)

def len : Nat := set.backends.length

-- The first kind and its backend: `kinds().next()` and `primary()`.
def primary : BackendKind × Backend := set.backends.head set.nonempty

end BackendSet

def splitOnce (separator : Char) (text : String) : Option (String × String) :=
  match text.toList.span (fun c => c != separator) with
  | (_, []) => none
  | (before, _ :: after) => some (String.ofList before, String.ofList after)

def kindName : BackendKind -> String
  | .zellij => "zellij"
  | .herdr => "herdr"

def parseBackendKind (text : String) : Option BackendKind :=
  if text = "zellij" then some .zellij
  else if text = "herdr" then some .herdr
  else none

def isCollapsedBackendSession (id : String) : Bool :=
  match splitOnce ':' id with
  | some (kind, _) => kind = "herdr"
  | none => false

def makeId (kind : BackendKind) (bare : String) : String :=
  kindName kind ++ ":" ++ bare

-- A byte of a longer UTF-8 sequence is never in the allowlist, so the test goes by characters.
def allowedInName (c : Char) : Bool :=
  c.isAlphanum || c = '_' || c = '-'

section

variable {Backend : Type} (zellijValidate : String -> Except (List Piece) Unit)

def validateSessionName (name : String) : Except (List Piece) Unit := do
  zellijValidate name
  if name.isEmpty || !name.toList.all allowedInName then
    throw [.text "invalid session name ", .debug name, .text ": only [A-Za-z0-9_-] characters are allowed"]

def validateSession (session : String) : Except Status Unit :=
  match validateSessionName zellijValidate session with
  | .ok _ => .ok ()
  | .error message => .error { code := .invalidArgument, message }

def selectBackend (backends : BackendSet Backend) (id : String) :
    Except Status (BackendKind × Backend × String) :=
  match splitOnce ':' id with
  | some (kindText, bare) =>
    match parseBackendKind kindText with
    | none =>
      .error
        { code := .invalidArgument
          message := [.text "session id ", .debug id, .text " names an unknown backend ", .debug kindText,
            .text " (expected one of: zellij, herdr)"] }
    | some kind =>
      match backends.get kind with
      | none =>
        .error
          { code := .notFound
            message := [.text "session id ", .debug id,
              .text (" targets the '" ++ kindName kind ++
                "' backend, which is not running on this server — re-list sessions")] }
      | some backend => .ok (kind, backend, bare)
  | none =>
    if backends.len = 1 then .ok (backends.primary.1, backends.primary.2, id)
    else
      .error
        { code := .invalidArgument
          message := [.text "session ", .debug id,
            .text (" is missing a '<backend>:' prefix and this server runs multiple backends — " ++
              "re-list sessions to obtain a backend-qualified id")] }

def resolveSessionKind (backends : BackendSet Backend) (id : String) :
    Except Status (BackendKind × Backend × String) :=
  match selectBackend backends id with
  | .error status => .error status
  | .ok (kind, backend, bare) =>
    match validateSession zellijValidate bare with
    | .error status => .error status
    | .ok _ => .ok (kind, backend, bare)

def resolveSession (backends : BackendSet Backend) (id : String) : Except Status (Backend × String) :=
  (resolveSessionKind zellijValidate backends id).map fun (_, backend, bare) => (backend, bare)

end

def isQualified (id : String) : Bool :=
  (splitOnce ':' id).isSome

theorem name_of_parseBackendKind {text : String} {kind : BackendKind}
    (parsed : parseBackendKind text = some kind) : text = kindName kind := by
  unfold parseBackendKind at parsed
  split_ifs at parsed with zellij herdr
  · cases parsed
    exact zellij
  · cases parsed
    exact herdr

section Resolved

variable {Backend : Type} {zellijValidate : String -> Except (List Piece) Unit}
  {backends : BackendSet Backend} {id bare : String} {kind : BackendKind} {backend : Backend}

theorem selectBackend_cases (selected : selectBackend backends id = .ok (kind, backend, bare)) :
    (splitOnce ':' id = some (kindName kind, bare) ∧ backends.get kind = some backend) ∨
      (splitOnce ':' id = none ∧ backends.len = 1 ∧ backends.primary = (kind, backend) ∧ bare = id) := by
  unfold selectBackend at selected
  cases parts : splitOnce ':' id with
  | none =>
    simp only [parts] at selected
    split_ifs at selected with single
    obtain ⟨rfl, rfl, rfl⟩ : backends.primary.1 = kind ∧ backends.primary.2 = backend ∧ id = bare := by
      simpa using selected
    exact .inr ⟨rfl, single, rfl, rfl⟩
  | some pair =>
    obtain ⟨kindText, rest⟩ := pair
    cases parsed : parseBackendKind kindText with
    | none => simp [parts, parsed] at selected
    | some found =>
      cases owner : backends.get found with
      | none => simp [parts, parsed, owner] at selected
      | some candidate =>
        obtain ⟨rfl, rfl, rfl⟩ : found = kind ∧ candidate = backend ∧ rest = bare := by
          simpa [parts, parsed, owner] using selected
        exact .inl ⟨by rw [name_of_parseBackendKind parsed], owner⟩

theorem selectBackend_of_resolve
    (resolved : resolveSessionKind zellijValidate backends id = .ok (kind, backend, bare)) :
    selectBackend backends id = .ok (kind, backend, bare) := by
  unfold resolveSessionKind at resolved
  cases selected : selectBackend backends id with
  | error status => simp [selected] at resolved
  | ok target =>
    obtain ⟨foundKind, foundBackend, foundBare⟩ := target
    cases valid : validateSession zellijValidate foundBare with
    | error status => simp [selected, valid] at resolved
    | ok _ => simpa [selected, valid] using resolved

theorem isCollapsed_of_resolve
    (resolved : resolveSessionKind zellijValidate backends id = .ok (kind, backend, bare)) :
    isCollapsedBackendSession id = true ↔ kind = .herdr ∧ isQualified id = true := by
  rcases selectBackend_cases (selectBackend_of_resolve resolved) with ⟨parts, _⟩ | ⟨parts, _⟩
  · cases kind <;> simp [isCollapsedBackendSession, isQualified, parts, kindName]
  · simp [isCollapsedBackendSession, isQualified, parts]

example : isCollapsedBackendSession "herdr:herdr" = true ∧ isCollapsedBackendSession "zellij:herdr" = false ∧
    isCollapsedBackendSession "herdr" = false := by decide

end Resolved

end Muxrd.Routing
