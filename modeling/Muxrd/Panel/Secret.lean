import Muxrd.Panel.Pairing

set_option autoImplicit false

namespace Muxrd.Panel

open Controller Pairing

def Holds (state : AppState) (secret : String) : Prop :=
  state.tokens.lastMintedSecret.map (·.plaintext) = some secret

def Displays (state : AppState) (secret : String) : Prop :=
  state.screen = .tokens ∧ state.qrOverlay = none ∧ Holds state secret

instance (state : AppState) (secret : String) : Decidable (Holds state secret) :=
  inferInstanceAs (Decidable (_ = _))

instance (state : AppState) (secret : String) : Decidable (Displays state secret) :=
  inferInstanceAs (Decidable (_ ∧ _ ∧ _))

def NeverLost (messages : List Message) : Prop :=
  ∀ before secret name readOnly since,
    before ++ .tokenCreated secret name readOnly :: since <+: messages ->
    ¬ Holds (panel (before ++ .tokenCreated secret name readOnly :: since)) secret ->
    ∃ shown, shown <+: since ∧ Displays (panel (before ++ .tokenCreated secret name readOnly :: shown)) secret

/-- The panel, and the secret minted last as long as it has not been on display. -/
structure Watched where
  panel : AppState
  unseen : Option String
  deriving DecidableEq, Repr

def lastMinted (earlier : Option String) : Message -> Option String
  | .tokenCreated secret _ _ => some secret
  | _ => earlier

def watch (watched : Watched) (message : Message) : Watched :=
  let next := (update watched.panel message).1
  let unseen := (lastMinted watched.unseen message).filter fun secret => !decide (Displays next secret)
  { panel := next, unseen }

def watched (messages : List Message) : Watched :=
  messages.foldl watch { panel := .new, unseen := none }

def Overwrites (state : AppState) (secret : String) : Message -> Prop
  | .tokensChanged => True
  | .tokenCreated token _ _ => token ≠ secret
  | message => state.pairing.target message = some .tokens

def SparesUnseen (watched : Watched) (message : Message) : Prop :=
  ∀ secret, watched.unseen = some secret -> ¬ Overwrites watched.panel secret message

section Watching

variable {messages : List Message} {message : Message} {secret : String}

@[simp] theorem watched_snoc (messages : List Message) (message : Message) :
    watched (messages ++ [message]) = watch (watched messages) message := by
  simp [watched]

@[simp] theorem watched_panel (messages : List Message) : (watched messages).panel = panel messages := by
  induction messages using List.reverseRecOn with
  | nil => rfl
  | append_singleton messages message ih => simp [watch, ih]

theorem unseen_hidden (unseen : (watched messages).unseen = some secret) : ¬ Displays (panel messages) secret := by
  induction messages using List.reverseRecOn with
  | nil => simp [watched] at unseen
  | append_singleton messages message _ =>
    rw [watched_snoc] at unseen
    simp only [watch, watched_panel, Option.filter_eq_some_iff] at unseen
    rw [panel_snoc]
    simpa using unseen.2

theorem overwrites_lost {state : AppState} (overwrites : Overwrites state secret message) :
    ¬ Holds (update state message).1 secret := by
  have emptied (moves : state.pairing.target message = some .tokens) : ¬ Holds (update state message).1 secret := by
    have entered := congrArg Pairing.secret (update_enters moves)
    simp only [AppState.pairing, enter, if_true] at entered
    simp [Holds, entered]
  cases message with
  | tokensChanged => simp [Holds, update, tokensChanged]
  | tokenCreated token name readOnly =>
    intro held
    exact overwrites (Option.some.inj held)
  | _ => exact emptied overwrites

theorem spared_held {state : AppState} (held : Holds state secret) (hidden : ¬ Displays state secret)
    (spares : ¬ Overwrites state secret message) : Holds (update state message).1 secret := by
  have effect := update_effect state message
  have same (kept : (update state message).1.pairing.secret = state.pairing.secret) :
      Holds (update state message).1 secret := by
    simp only [AppState.pairing] at kept
    simpa [Holds, kept] using held
  generalize (update state message).1 = next at effect same
  generalize atNext : next.pairing = pairing at effect same
  generalize requests (update state message).2 = asked at effect
  cases effect with
  | @entered _ screen moves =>
    have elsewhere : screen ≠ .tokens := by
      rintro rfl
      cases message with
      | key event => exact spares moves
      | navTo next => exact spares moves
      | _ => simp [target] at moves
    exact same (by simp [enter, elsewhere])
  | @minted token name readOnly =>
    have again : token = secret := not_not.mp spares
    have minted := congrArg Pairing.secret atNext
    simp only [AppState.pairing] at minted
    simp [Holds, minted, again]
  | changed => exact absurd trivial spares
  | dismissed screen closed => exact absurd ⟨screen, closed, held⟩ hidden
  | _ => exact same rfl

theorem unseen_minted (unseen : (watched messages).unseen = some secret) :
    ∃ before name readOnly since, messages = before ++ .tokenCreated secret name readOnly :: since ∧
      ∀ shown, shown <+: since -> ¬ Displays (panel (before ++ .tokenCreated secret name readOnly :: shown)) secret := by
  induction messages using List.reverseRecOn with
  | nil => simp [watched] at unseen
  | append_singleton messages message ih =>
    have hidden : ¬ Displays (panel (messages ++ [message])) secret := unseen_hidden unseen
    have later (still : (watched messages).unseen = some secret) :
        ∃ before name readOnly since,
          messages ++ [message] = before ++ .tokenCreated secret name readOnly :: since ∧
          ∀ shown, shown <+: since ->
            ¬ Displays (panel (before ++ .tokenCreated secret name readOnly :: shown)) secret := by
      obtain ⟨before, name, readOnly, since, rfl, never⟩ := ih still
      refine ⟨before, name, readOnly, since ++ [message], by simp, fun shown within => ?_⟩
      rcases List.prefix_concat_iff.mp within with rfl | within
      · simpa using hidden
      · exact never shown within
    rw [watched_snoc] at unseen
    simp only [watch, Option.filter_eq_some_iff] at unseen
    cases message with
    | tokenCreated token name readOnly =>
      obtain rfl : token = secret := Option.some.inj unseen.1
      refine ⟨messages, name, readOnly, [], rfl, fun shown within => ?_⟩
      rw [List.prefix_nil.mp within]
      exact hidden
    | _ => exact later unseen.1

theorem minted_watched {before since : List Message} {name : String} {readOnly : Bool}
    (spares : ∀ earlier message, earlier ++ [message] <+: before ++ .tokenCreated secret name readOnly :: since ->
      SparesUnseen (watched earlier) message) :
    (∃ shown, shown <+: since ∧ Displays (panel (before ++ .tokenCreated secret name readOnly :: shown)) secret) ∨
      (watched (before ++ .tokenCreated secret name readOnly :: since)).unseen = some secret ∧
        Holds (panel (before ++ .tokenCreated secret name readOnly :: since)) secret := by
  induction since using List.reverseRecOn with
  | nil =>
    have held : Holds (panel (before ++ [.tokenCreated secret name readOnly])) secret := by
      simp [Holds, update, tokenCreated]
    by_cases displayed : Displays (panel (before ++ [.tokenCreated secret name readOnly])) secret
    · exact .inl ⟨[], List.prefix_rfl, displayed⟩
    · refine .inr ⟨?_, held⟩
      rw [panel_snoc] at displayed
      simp [watch, lastMinted, displayed]
  | append_singleton since message ih =>
    set earlier := before ++ .tokenCreated secret name readOnly :: since with atEarlier
    have snoc : before ++ .tokenCreated secret name readOnly :: (since ++ [message]) = earlier ++ [message] := by
      simp [atEarlier]
    rw [snoc] at spares ⊢
    rcases ih fun first message within => spares first message (within.trans (List.prefix_append _ _)) with
      ⟨shown, within, displayed⟩ | ⟨unseen, held⟩
    · exact .inl ⟨shown, within.trans (List.prefix_append _ _), displayed⟩
    · have spared := spares earlier message List.prefix_rfl secret unseen
      rw [watched_panel] at spared
      have still : Holds (panel (earlier ++ [message])) secret := by
        rw [panel_snoc]
        exact spared_held held (unseen_hidden unseen) spared
      by_cases displayed : Displays (panel (earlier ++ [message])) secret
      · exact .inl ⟨since ++ [message], List.prefix_rfl, by rwa [snoc]⟩
      · refine .inr ⟨?_, still⟩
        rw [panel_snoc] at displayed
        have next : lastMinted (watched earlier).unseen message = some secret := by
          cases message with
          | tokenCreated token name readOnly => exact congrArg some (not_not.mp spared)
          | _ => exact unseen
        simp [watch, next, displayed]

end Watching

/-- A secret is never lost unseen, exactly in the runs in which every message spares the unseen one. -/
theorem minted_secret_shown_iff (messages : List Message) :
    NeverLost messages ↔
      ∀ earlier message, earlier ++ [message] <+: messages -> SparesUnseen (watched earlier) message := by
  constructor
  · intro never earlier message within secret unseen overwrites
    obtain ⟨before, name, readOnly, since, rfl, hidden⟩ := unseen_minted unseen
    have lost : ¬ Holds (panel (before ++ .tokenCreated secret name readOnly :: (since ++ [message]))) secret := by
      rw [← List.cons_append, ← List.append_assoc, panel_snoc]
      rw [watched_panel] at overwrites
      exact overwrites_lost overwrites
    have ran : before ++ .tokenCreated secret name readOnly :: (since ++ [message]) <+: messages := by
      simpa using within
    obtain ⟨shown, within, displayed⟩ := never before secret name readOnly (since ++ [message]) ran lost
    rcases List.prefix_concat_iff.mp within with rfl | within
    · exact lost displayed.2.2
    · exact hidden shown within displayed
  · intro spares before secret name readOnly since within lost
    rcases minted_watched fun earlier message reached => spares earlier message (reached.trans within) with
      shown | ⟨_, held⟩
    · exact shown
    · exact absurd held lost

section WalkedAway

def askedAndLeft : List Message :=
  [press .tab, press .tab, press .tab, .tokensLoaded [], press (.char 'c'), press (.char 'p'), press .enter,
    press .tab]

/-- The token arrives while the Server screen is up, and coming back for it clears it. -/
theorem walked_away_lost :
    .createToken (some "p") false ∈ emitted update .new askedAndLeft ∧
      ¬ NeverLost (askedAndLeft ++ [.tokenCreated "secret" "p" false, press .backTab]) := by
  refine ⟨by decide, fun never => ?_⟩
  obtain ⟨shown, within, displayed⟩ :=
    never askedAndLeft "secret" "p" false [press .backTab] List.prefix_rfl (by decide)
  have either : shown = [] ∨ shown = [press .backTab] := by
    rw [← List.nil_append [press .backTab], List.prefix_concat_iff, List.prefix_nil] at within
    exact within.symm
  rcases either with rfl | rfl
  · revert displayed
    decide
  · revert displayed
    decide

end WalkedAway

end Muxrd.Panel
