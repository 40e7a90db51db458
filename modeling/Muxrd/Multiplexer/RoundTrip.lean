import Mathlib.Data.List.TakeDrop
import Muxrd.Multiplexer.Routing

set_option autoImplicit false

namespace Muxrd.Routing

def BareName (name : String) : Prop :=
  name ≠ "" ∧ ∀ c ∈ name.toList, allowedInName c = true

instance (name : String) : Decidable (BareName name) :=
  -- Over the name's own characters, not over all there are.
  have := List.decidableBAll (fun c => allowedInName c = true) name.toList
  inferInstanceAs (Decidable (_ ∧ _))

-- What is relied on of zellij's own check. That it also rejects some names is not needed: the
-- allowlist already does.
def AcceptsBareNames (zellijValidate : String -> Except (List Piece) Unit) : Prop :=
  ∀ name, BareName name -> zellijValidate name = .ok ()

-- zellij's own check, as the comment at the call words it.
def documentedCheck (name : String) : Except (List Piece) Unit :=
  if name = "" ∨ name = "." ∨ name = ".." ∨ '/' ∈ name.toList then
    .error [.text "invalid session name"]
  else .ok ()

-- A character that could change the path a name is joined to, split an id, or control a terminal.
def Unsafe (c : Char) : Prop :=
  c = '/' ∨ c = '.' ∨ c = ':' ∨ c.toNat < 32 ∨ c.toNat = 127

theorem code_of_allowed {c : Char} (allowed : allowedInName c = true) :
    (48 ≤ c.toNat ∧ c.toNat ≤ 57) ∨ (65 ≤ c.toNat ∧ c.toNat ≤ 90) ∨ (97 ≤ c.toNat ∧ c.toNat ≤ 122) ∨
      c.toNat = 95 ∨ c.toNat = 45 := by
  have alpha : c.isAlpha = (c.isUpper || c.isLower) := rfl
  have upper : c.isUpper = decide (c.val ≥ 'A'.val ∧ c.val ≤ 'Z'.val) := rfl
  have lower : c.isLower = (decide (c.val ≥ 'a'.val) && decide (c.val ≤ 'z'.val)) := rfl
  simp only [allowedInName, Char.isAlphanum, alpha, upper, lower, Char.isDigit,
    Bool.or_eq_true, Bool.and_eq_true, decide_eq_true_eq, ge_iff_le, UInt32.le_iff_toNat_le] at allowed
  rcases allowed with (((upper | lower) | digit) | rfl) | rfl
  · exact .inr (.inl upper)
  · exact .inr (.inr (.inl lower))
  · exact .inl digit
  · exact .inr (.inr (.inr (.inl rfl)))
  · exact .inr (.inr (.inr (.inr rfl)))

theorem safe_of_allowed {c : Char} (allowed : allowedInName c = true) : ¬ Unsafe c := by
  intro bad
  have code := code_of_allowed allowed
  rcases bad with rfl | rfl | rfl | low | delete
  · simp at code
  · simp at code
  · simp at code
  · omega
  · omega

theorem documentedCheck_accepts : AcceptsBareNames documentedCheck := by
  intro name bare
  have plain : ∀ c, Unsafe c -> c ∉ name.toList := by
    intro c bad member
    exact safe_of_allowed (bare.2 c member) bad
  have kept : ¬ (name = "" ∨ name = "." ∨ name = ".." ∨ '/' ∈ name.toList) := by
    rintro (rfl | rfl | rfl | slash)
    · exact bare.1 rfl
    · exact plain '.' (.inr (.inl rfl)) (by simp)
    · exact plain '.' (.inr (.inl rfl)) (by simp)
    · exact plain '/' (.inl rfl) slash
  simp [documentedCheck, kept]

section Splitting

variable {separator : Char} {text before after : String}

theorem splitOnce_append (fresh : separator ∉ before.toList) :
    splitOnce separator (String.ofList (before.toList ++ separator :: after.toList)) = some (before, after) := by
  have pass : ∀ c ∈ before.toList, (c != separator) = true := by
    intro c member
    simp only [bne_iff_ne]
    exact fun same => fresh (same ▸ member)
  unfold splitOnce
  rw [String.toList_ofList, List.span_eq_takeWhile_dropWhile, List.takeWhile_append_of_pos pass,
    List.dropWhile_append_of_pos pass]
  simp

theorem text_of_splitOnce (parts : splitOnce separator text = some (before, after)) :
    text = before ++ String.singleton separator ++ after := by
  unfold splitOnce at parts
  rw [List.span_eq_takeWhile_dropWhile] at parts
  have whole := List.takeWhile_append_dropWhile (p := fun c => c != separator) (l := text.toList)
  have stop := List.head_dropWhile_not (fun c => c != separator) (l := text.toList)
  cases rest : text.toList.dropWhile fun c => c != separator with
  | nil => simp [rest] at parts
  | cons c tail =>
    simp only [rest, Option.some.injEq, Prod.mk.injEq] at parts
    obtain ⟨rfl, rfl⟩ := parts
    have here : c = separator := by simpa [rest] using stop
    rw [rest, here] at whole
    apply String.ext
    simp [whole]

end Splitting

theorem makeId_eq (kind : BackendKind) (bare : String) :
    makeId kind bare = String.ofList ((kindName kind).toList ++ ':' :: bare.toList) := by
  apply String.ext
  simp [makeId]

theorem kindName_no_colon (kind : BackendKind) : ':' ∉ (kindName kind).toList := by
  cases kind <;> decide

theorem splitOnce_makeId (kind : BackendKind) (bare : String) :
    splitOnce ':' (makeId kind bare) = some (kindName kind, bare) := by
  rw [makeId_eq]
  exact splitOnce_append (kindName_no_colon kind)

@[simp] theorem parseBackendKind_kindName (kind : BackendKind) :
    parseBackendKind (kindName kind) = some kind := by
  cases kind <;> decide

-- Injective over all names, not only those the allowlist admits: the split is at the first colon.
theorem makeId_injective {kind other : BackendKind} {bare name : String}
    (same : makeId kind bare = makeId other name) : kind = other ∧ bare = name := by
  have parts : some (kindName kind, bare) = some (kindName other, name) := by
    rw [← splitOnce_makeId kind bare, ← splitOnce_makeId other name, same]
  simp only [Option.some.injEq, Prod.mk.injEq] at parts
  have kinds := congrArg parseBackendKind parts.1
  simp only [parseBackendKind_kindName, Option.some.injEq] at kinds
  exact ⟨kinds, parts.2⟩

section Resolving

variable {Backend : Type} {zellijValidate : String -> Except (List Piece) Unit}
  {backends : BackendSet Backend} {id bare : String} {kind : BackendKind} {backend : Backend}

theorem validateSessionName_eq_ok :
    validateSessionName zellijValidate bare = .ok () ↔ zellijValidate bare = .ok () ∧ BareName bare := by
  unfold validateSessionName
  cases own : zellijValidate bare with
  | error message => simp [bind, Except.bind]
  | ok _ =>
    by_cases name : BareName bare
    · have listed : bare.toList.all allowedInName = true := List.all_eq_true.mpr name.2
      simp [bind, Except.bind, name, listed, name.1, pure, Except.pure]
    · have rejected : (bare.isEmpty || !bare.toList.all allowedInName) = true := by
        by_contra kept
        simp only [Bool.or_eq_true, not_or, Bool.not_eq_true, String.isEmpty_eq_false_iff, ne_eq,
          Bool.not_eq_false', List.all_eq_true] at kept
        exact name kept
      simp [bind, Except.bind, name, rejected, throw, throwThe, MonadExceptOf.throw]

theorem validateSession_eq_ok :
    validateSession zellijValidate bare = .ok () ↔ zellijValidate bare = .ok () ∧ BareName bare := by
  rw [← validateSessionName_eq_ok]
  unfold validateSession
  cases validateSessionName zellijValidate bare <;> simp

theorem selectBackend_makeId (running : backends.get kind = some backend) :
    selectBackend backends (makeId kind bare) = .ok (kind, backend, bare) := by
  simp [selectBackend, splitOnce_makeId, running]

theorem resolveSessionKind_eq_ok :
    resolveSessionKind zellijValidate backends id = .ok (kind, backend, bare) ↔
      selectBackend backends id = .ok (kind, backend, bare) ∧
        zellijValidate bare = .ok () ∧ BareName bare := by
  rw [← validateSession_eq_ok]
  constructor
  · intro resolved
    have selected := selectBackend_of_resolve resolved
    refine ⟨selected, ?_⟩
    cases valid : validateSession zellijValidate bare with
    | error status => simp [resolveSessionKind, selected, valid] at resolved
    | ok _ => rfl
  · intro both
    simp [resolveSessionKind, both.1, both.2]

theorem resolve_makeId (accepts : AcceptsBareNames zellijValidate) (running : backends.get kind = some backend)
    (name : BareName bare) :
    resolveSessionKind zellijValidate backends (makeId kind bare) = .ok (kind, backend, bare) :=
  resolveSessionKind_eq_ok.mpr ⟨selectBackend_makeId running, accepts bare name, name⟩

theorem get_primary (backends : BackendSet Backend) :
    backends.get backends.primary.1 = some backends.primary.2 := by
  cases members : backends.backends with
  | nil => exact absurd members backends.nonempty
  | cons first rest => simp [BackendSet.get, BackendSet.primary, members]

theorem running_of_mem {entry : BackendKind × Backend} (member : entry ∈ backends.backends) :
    ∃ backend, backends.get entry.1 = some backend := by
  cases found : backends.backends.find? fun pair => pair.1 = entry.1 with
  | none => simpa using List.find?_eq_none.mp found entry member
  | some first => exact ⟨first.2, by simp [BackendSet.get, found]⟩

theorem id_of_selected (selected : selectBackend backends id = .ok (kind, backend, bare)) :
    backends.get kind = some backend ∧ (id = makeId kind bare ∨ id = bare ∧ backends.len = 1) := by
  cases selectBackend_cases selected with
  | inl qualified =>
    refine ⟨qualified.2, .inl ?_⟩
    have text := text_of_splitOnce qualified.1
    rw [text, makeId_eq]
    apply String.ext
    simp
  | inr legacy =>
    have running := get_primary backends
    rw [legacy.2.2.1] at running
    exact ⟨running, .inr ⟨legacy.2.2.2.symm, legacy.2.1⟩⟩

end Resolving

/-- Resolving and minting are inverse, and whatever resolves is safe to join to a socket path. -/
theorem resolution_inverts_minting {Backend : Type} {zellijValidate : String -> Except (List Piece) Unit}
    (accepts : AcceptsBareNames zellijValidate) (backends : BackendSet Backend) :
    (∀ kind backend bare, backends.get kind = some backend -> BareName bare ->
      resolveSessionKind zellijValidate backends (makeId kind bare) = .ok (kind, backend, bare)) ∧
    (∀ kind other bare name, makeId kind bare = makeId other name -> kind = other ∧ bare = name) ∧
    ∀ id kind backend bare,
      resolveSessionKind zellijValidate backends id = .ok (kind, backend, bare) ->
        backends.get kind = some backend ∧ BareName bare ∧ (∀ c ∈ bare.toList, ¬ Unsafe c) ∧
          (id = makeId kind bare ∨ id = bare ∧ backends.len = 1) := by
  refine ⟨?minted, ?injective, ?resolved⟩
  case minted =>
    intro kind backend bare running name
    exact resolve_makeId accepts running name
  case injective =>
    intro kind other bare name same
    exact makeId_injective same
  case resolved =>
    intro id kind backend bare resolved
    have facts := resolveSessionKind_eq_ok.mp resolved
    have source := id_of_selected facts.1
    refine ⟨source.1, facts.2.2, ?_, source.2⟩
    intro c member
    exact safe_of_allowed (facts.2.2.2 c member)

theorem resolution_inverts_minting_documented :
    let both : BackendSet Unit := { backends := [(.zellij, ()), (.herdr, ())], nonempty := List.cons_ne_nil _ _ }
    resolveSessionKind documentedCheck both (makeId .herdr "proj") = .ok (.herdr, (), "proj") :=
  (resolution_inverts_minting documentedCheck_accepts _).1 .herdr () "proj" rfl (by decide)

-- The traversal is in the bare name, behind a valid prefix.
example : resolveSessionKind documentedCheck { backends := [(.zellij, ())], nonempty := List.cons_ne_nil _ _ }
    "zellij:../etc" = .error { code := .invalidArgument, message := [.text "invalid session name"] } := by
  decide

end Muxrd.Routing
