import Muxrd.Grpc.Service
import Muxrd.Lib.Net

set_option autoImplicit false

namespace Muxrd.Auth

open Routing Helpers Service

-- A token as zellij lists it: never with its secret.
structure TokenRow where
  name : String
  createdAt : String
  readOnly : Bool

/-- zellij's `web_authentication_tokens` over its tokens.db. `expire` is what time does to the sessions in it. -/
structure TokenDb (Db : Type) where
  createToken : Option String -> Bool -> Db -> Except String (String × String) × Db
  listTokens : Db -> Except String (List TokenRow)
  revokeToken : String -> Db -> Except String Bool × Db
  createSessionToken : String -> Bool -> Db -> Except String String × Db
  validateSessionToken : String -> Db -> Except String Bool
  isSessionTokenReadOnly : String -> Db -> Except String Bool
  expire : Db -> Db

section Bearer

variable {Db : Type} (tokens : TokenDb Db)

-- What `HeaderValue::to_str` lets through.
def isVisibleAscii (byte : UInt8) : Bool :=
  (32 ≤ byte && byte < 127) || byte = 9

def headerText (value : List UInt8) : Option String :=
  if value.all isVisibleAscii then some (String.ofList (value.map fun byte => Char.ofNat byte.toNat)) else none

def stripPrefix (start text : String) : Option String :=
  if start.toList.isPrefixOf text.toList then some (String.ofList (text.toList.drop start.toList.length)) else none

-- Every error of the layer is an `unauthenticated` status.
def bearerToken (authorization : Option (List UInt8)) : Except String String := do
  match authorization with
  | none => throw "missing authorization header"
  | some header =>
    match headerText header with
    | none => throw "authorization header is not valid ASCII"
    | some value =>
      match stripPrefix "Bearer " value with
      | none => throw "authorization header must use Bearer scheme"
      | some token => if token.isEmpty then throw "bearer token must not be empty" else return token

/-- The flag and the token of an authenticated request. The database is asked twice, and may have changed in
between. -/
def checkBearer (authorization : Option (List UInt8)) (db later : Db) : Except String (Bool × String) := do
  let token ← bearerToken authorization
  match tokens.validateSessionToken token db with
  | .error _ => throw "authentication error"
  | .ok false => throw "invalid or expired session token — call Login first"
  | .ok true =>
    match tokens.isSessionTokenReadOnly token later with
    | .ok readOnly => return (readOnly, token)
    -- Fails closed.
    | .error _ => return (true, token)

-- The relay's own check of its token, every 30 seconds.
def revalidateToken (token : Option String) (db : Db) : Bool :=
  match token with
  | none => false
  | some token =>
    match tokens.validateSessionToken token db with
    | .ok valid => valid
    | .error _ => false

theorem checkBearer_ok {authorization : Option (List UInt8)} {db later : Db} {readOnly : Bool} {token : String} :
    checkBearer tokens authorization db later = .ok (readOnly, token) ↔
      bearerToken authorization = .ok token ∧ tokens.validateSessionToken token db = .ok true ∧
        readOnly = (tokens.isSessionTokenReadOnly token later).toOption.getD true := by
  unfold checkBearer
  cases sent : bearerToken authorization with
  | error error => simp [bind, Except.bind]
  | ok found =>
    by_cases same : found = token
    · subst same
      rcases checked : tokens.validateSessionToken found db with _ | (_ | _) <;>
        rcases flagged : tokens.isSessionTokenReadOnly found later with _ | _ <;>
        simp [bind, Except.bind, throw, throwThe, MonadExceptOf.throw, pure, Except.pure, Except.toOption, checked,
          flagged, eq_comm]
    · rcases checked : tokens.validateSessionToken found db with _ | (_ | _) <;>
        rcases flagged : tokens.isSessionTokenReadOnly found later with _ | _ <;>
        simp [bind, Except.bind, throw, throwThe, MonadExceptOf.throw, pure, Except.pure, checked, flagged, same]

theorem revalidateToken_some {token : String} {db : Db} :
    revalidateToken tokens (some token) db = true ↔ tokens.validateSessionToken token db = .ok true := by
  unfold revalidateToken
  rcases told : tokens.validateSessionToken token db with _ | _ <;> simp [told]

end Bearer

section Handlers

variable {Db : Type} (tokens : TokenDb Db) (caller : Option Bool)

structure LoginResponse where
  sessionToken : String
  isReadOnly : Bool
  deriving DecidableEq, Repr

def login (authToken : String) (rememberMe : Bool) (db : Db) : Except String LoginResponse × Db :=
  match tokens.createSessionToken authToken rememberMe db with
  | (.error error, after) => (.error ("invalid auth token: " ++ error), after)
  | (.ok sessionToken, after) =>
    (.ok { sessionToken, isReadOnly := (tokens.isSessionTokenReadOnly sessionToken after).toOption.getD false }, after)

structure TokenInfo where
  name : String
  token : String
  readOnly : Bool
  createdAt : String
  deriving DecidableEq, Repr

-- An empty name lets zellij generate one.
def requestedName (name : String) : Option String :=
  let name := RustStd.trim name
  if name.isEmpty then none else some name

def createToken (name : String) (readOnly : Bool) (db : Db) : Except Status TokenInfo × Db :=
  match rejectIfReadOnly caller with
  | .error status => (.error status, db)
  | .ok () =>
    match tokens.createToken (requestedName name) readOnly db with
    | (.error error, after) =>
      (.error { code := .internal, message := [.text ("create token failed: " ++ error)] }, after)
    | (.ok (token, name), after) => (.ok { name, token, readOnly, createdAt := "" }, after)

def listTokens (db : Db) : Except Status (List TokenInfo) := do
  rejectIfReadOnly caller
  match tokens.listTokens db with
  | .error error => throw { code := .internal, message := [.text ("list tokens failed: " ++ error)] }
  | .ok rows =>
    return rows.map fun row => { name := row.name, token := "", readOnly := row.readOnly, createdAt := row.createdAt }

def revokeToken (name : String) (db : Db) : Except Status ProtoAck × Db :=
  match rejectIfReadOnly caller with
  | .error status => (.error status, db)
  | .ok () =>
    if (RustStd.trim name).isEmpty then
      (.error { code := .invalidArgument, message := [.text "RevokeToken: name must not be empty"] }, db)
    else
      match tokens.revokeToken name db with
      | (.error error, after) =>
        (.error { code := .internal, message := [.text ("revoke token failed: " ++ error)] }, after)
      | (.ok removed, after) =>
        let error := if removed then "" else "token '" ++ name ++ "' not found (already revoked or never existed)"
        (.ok { ok := removed, error, info := "" }, after)

end Handlers

section Calls

def publicPaths : List String :=
  ["/muxr.v1.Muxr/GetVersion", "/muxr.v1.Muxr/Login"]

inductive TokenCall
  | createToken (name : String) (readOnly : Bool)
  | listTokens
  | revokeToken (name : String)

def TokenCall.rpc : TokenCall -> BackendRpc
  | .createToken _ _ => .createToken
  | .listTokens => .listTokens
  | .revokeToken _ => .revokeToken

def onTokens : Request -> Bool
  | .backend .createToken | .backend .listTokens | .backend .revokeToken => true
  | _ => false

inductive Call
  | getVersion
  | login (authToken : String) (rememberMe : Bool)
  | attachTerminal
  | tokens (call : TokenCall)
  | unary (request : { request : Request // onTokens request = false })

def backendName : BackendRpc -> String
  | .listSessions => "ListSessions"
  | .getSpaces => "GetSpaces"
  | .scrollPane => "ScrollPane"
  | .writeToPane => "WriteToPane"
  | .closePane => "ClosePane"
  | .newPane => "NewPane"
  | .renamePane => "RenamePane"
  | .resizePane => "ResizePane"
  | .togglePaneFloating => "TogglePaneFloating"
  | .newTab => "NewTab"
  | .closeTab => "CloseTab"
  | .renameTab => "RenameTab"
  | .renameSession => "RenameSession"
  | .killSession => "KillSession"
  | .createSession => "CreateSession"
  | .createSpace => "CreateSpace"
  | .renameSpace => "RenameSpace"
  | .createToken => "CreateToken"
  | .listTokens => "ListTokens"
  | .revokeToken => "RevokeToken"

def requestName : Request -> String
  | .goToTab _ _ _ => "GoToTab"
  | .focusPane _ => "FocusPane"
  | .togglePaneFullscreen _ => "TogglePaneFullscreen"
  | .switchSpace _ _ _ => "SwitchSpace"
  | .closeSpace _ _ _ _ _ => "CloseSpace"
  | .getLayout _ _ => "GetLayout"
  | .backend rpc => backendName rpc

def Call.name : Call -> String
  | .getVersion => "GetVersion"
  | .login _ _ => "Login"
  | .attachTerminal => "AttachTerminal"
  | .tokens call => backendName call.rpc
  | .unary request => requestName request.val

-- The path that tonic's router serves the method under.
def Call.path (call : Call) : String :=
  "/muxr.v1.Muxr/" ++ call.name

def Call.isAttach : Call -> Bool
  | .attachTerminal => true
  | _ => false

theorem path_public {call : Call} (bypasses : call.path ∈ publicPaths) :
    call = .getVersion ∨ ∃ authToken rememberMe, call = .login authToken rememberMe := by
  cases call with
  | getVersion => exact .inl rfl
  | login authToken rememberMe => exact .inr ⟨authToken, rememberMe, rfl⟩
  | attachTerminal => exact absurd bypasses (by decide)
  | tokens call =>
    cases call <;> exact absurd bypasses (by simp [Call.path, Call.name, TokenCall.rpc, backendName, publicPaths])
  | unary request =>
    obtain ⟨request, _⟩ := request
    cases request with
    | backend rpc =>
      cases rpc <;> exact absurd bypasses (by simp [Call.path, Call.name, requestName, backendName, publicPaths])
    | _ => exact absurd bypasses (by simp [Call.path, Call.name, requestName, publicPaths])

end Calls

end Muxrd.Auth
