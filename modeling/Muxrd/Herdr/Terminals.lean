import Muxrd.Herdr.Polls

set_option autoImplicit false

namespace Muxrd.Polls

open Herdr Transition

def Event.ListsTerminals : Event -> Prop
  | .answer _ api =>
    ∀ workspaceId panes, api.paneList workspaceId = .ok panes -> ∀ pane ∈ panes, pane.terminalId ≠ ""
  | _ => True

-- The panes of the layouts that are used are among those of the same query's `pane.list`.
def Covers (tabs : List TabInfo) (panes : List PaneInfo) (layouts : TabLayouts) : Prop :=
  ∀ tab ∈ tabs, ∀ layout ∈ layouts.lookup tab.tabId, ∀ pane ∈ layout.panes, pane.paneId ∈ panes.map (·.paneId)

-- The pane that is registered next gets an id of its own.
def HasIds (registered : List PaneOp) (next : Assign) : Prop :=
  (panesOf (registered ++ next.paneOps)).dedup.length ≤ UInt32.size - 1

def CoveredAt (registered : List PaneOp) : Option Poll -> Prop
  | some (.fetched tabs panes layouts) => Covers tabs panes layouts
  | some (.registering (next :: _)) => HasIds registered next
  | _ => True

def Covered (shared : Shared) : Event -> Prop
  | .advance task => CoveredAt shared.registered (shared.polls.lookup task)
  | _ => True

instance (tabs : List TabInfo) (panes : List PaneInfo) (layouts : TabLayouts) : Decidable (Covers tabs panes layouts) :=
  inferInstanceAs (Decidable (∀ tab ∈ tabs, ∀ layout ∈ layouts.lookup tab.tabId, ∀ pane ∈ layout.panes,
    pane.paneId ∈ panes.map (·.paneId)))

instance (registered : List PaneOp) (next : Assign) : Decidable (HasIds registered next) :=
  inferInstanceAs (Decidable (_ ≤ _))

instance (registered : List PaneOp) : (poll : Option Poll) -> Decidable (CoveredAt registered poll)
  | some (.fetched tabs panes layouts) => inferInstanceAs (Decidable (Covers tabs panes layouts))
  | some (.registering (next :: _)) => inferInstanceAs (Decidable (HasIds registered next))
  | some (.registering []) => .isTrue trivial
  | some (.workspaces _) | some (.tabs _) | some (.panes ..) | some (.layout ..) | some (.resolving _) | none =>
    .isTrue trivial

instance (shared : Shared) : (event : Event) -> Decidable (Covered shared event)
  | .advance task => inferInstanceAs (Decidable (CoveredAt shared.registered (shared.polls.lookup task)))
  | .queryLayout .. | .resolve .. | .answer .. | .focusPane _ => .isTrue trivial

structure Kept (shared : Shared) : Prop where
  registered : ∀ pane id, shared.ids.panes.idOf pane = some id -> ∃ terminal,
    shared.ids.panes.terminalId id = some terminal ∧ terminal ≠ "" ∧ (pane, terminal) ∈ shared.reported
  attached : ∀ id terminal, (id, terminal) ∈ shared.attached -> terminal ≠ "" ∧
    ∃ pane, (∀ other, shared.ids.panes.idOf other = some id ↔ other = pane) ∧ (pane, terminal) ∈ shared.reported

def Assign.Grounded (reported : List (String × String)) : Assign -> Prop
  | .pane paneId terminalId => (paneId, terminalId) ∈ reported
  | .tab _ => True

def Grounded (reported : List (String × String)) : Poll -> Prop
  | .layout _ panes _ _ _ | .fetched _ panes _ => terminalsOf panes ⊆ reported
  | .registering pending => ∀ next ∈ pending, next.Grounded reported
  | .workspaces _ | .tabs _ | .panes _ _ | .resolving _ => True

structure Sound (shared : Shared) : Prop where
  registry : shared.ids.panes = HerdrPaneRegistry.new.after shared.registered
  few : (panesOf shared.registered).dedup.length ≤ UInt32.size - 1
  calls : ∀ pane terminal, .assignOrGet pane terminal ∈ shared.registered -> (pane, terminal) ∈ shared.reported
  terminals : ∀ pane terminal, (pane, terminal) ∈ shared.reported -> terminal ≠ ""
  polls : ∀ task poll, shared.polls.lookup task = some poll -> Grounded shared.reported poll
  attached : ∀ id terminal, (id, terminal) ∈ shared.attached ->
    ∃ pane, shared.ids.panes.idOf pane = some id ∧ (pane, terminal) ∈ shared.reported

theorem sound_new : Sound Shared.new := by
  constructor <;> simp [Shared.new, HerdrPaneRegistry.after, panesOf]

section Lookups

theorem last_call {ops : List PaneOp} {pane : String} (seen : pane ∈ panesOf ops) :
    ∃ before terminal after, ops = before ++ .assignOrGet pane terminal :: after ∧ pane ∉ panesOf after := by
  induction ops with
  | nil => simp [panesOf] at seen
  | cons op rest ih =>
    by_cases again : pane ∈ panesOf rest
    · obtain ⟨before, terminal, after, rfl, last⟩ := ih again
      exact ⟨op :: before, terminal, after, rfl, last⟩
    · cases op with
      | assignOrGet other terminal =>
        have either : pane ∈ other :: panesOf rest := seen
        have same : pane = other := (List.mem_cons.mp either).resolve_right again
        exact ⟨[], terminal, rest, by rw [same]; rfl, again⟩
      | herdrPaneId id => exact absurd seen again
      | terminalId id => exact absurd seen again

variable {shared : Shared}

theorem Sound.terminal (sound : Sound shared) {pane : String} {id : UInt32}
    (known : shared.ids.panes.idOf pane = some id) :
    ∃ terminal, shared.ids.panes.terminalId id = some terminal ∧ (pane, terminal) ∈ shared.reported := by
  have ids := paneIds shared.registered sound.few
  rw [sound.registry] at known ⊢
  have handed := (ids.numbering.known pane id).mp ((ids.numbering.inverse pane id).mp known)
  have seen : pane ∈ panesOf shared.registered := by
    rw [← handedOut_panes HerdrPaneRegistry.new]
    exact List.mem_map_of_mem handed
  obtain ⟨before, terminal, after, split, last⟩ := last_call seen
  refine ⟨terminal, ids.terminal before pane terminal after id split last handed, ?_⟩
  apply sound.calls
  rw [split]
  simp

theorem Sound.owner (sound : Sound shared) {id : UInt32} {terminal : String}
    (found : shared.ids.panes.terminalId id = some terminal) :
    ∃ pane, shared.ids.panes.idOf pane = some id ∧ (pane, terminal) ∈ shared.reported := by
  have ids := paneIds shared.registered sound.few
  have owned : ∃ pane, (pane, id) ∈ HerdrPaneRegistry.new.handedOut shared.registered := by
    by_contra never
    have missing := (ids.unknown id (not_exists.mp never)).2
    rw [← sound.registry, found] at missing
    cases missing
  obtain ⟨pane, handed⟩ := owned
  have known : shared.ids.panes.idOf pane = some id := by
    rw [sound.registry]
    exact (ids.numbering.inverse pane id).mpr ((ids.numbering.known pane id).mpr handed)
  obtain ⟨recorded, same, reported⟩ := sound.terminal known
  rw [found] at same
  rw [← Option.some.inj same] at reported
  exact ⟨pane, known, reported⟩

theorem Sound.alone (sound : Sound shared) {pane other : String} {id : UInt32}
    (known : shared.ids.panes.idOf pane = some id) (also : shared.ids.panes.idOf other = some id) : other = pane := by
  have numbering := (paneIds shared.registered sound.few).numbering
  rw [sound.registry] at known also
  have owner := (numbering.inverse pane id).mp known
  rw [(numbering.inverse other id).mp also] at owner
  exact Option.some.inj owner

theorem Sound.kept (sound : Sound shared) : Kept shared := by
  constructor
  · intro pane id known
    obtain ⟨terminal, found, reported⟩ := sound.terminal known
    exact ⟨terminal, found, sound.terminals pane terminal reported, reported⟩
  · intro id terminal member
    obtain ⟨pane, known, reported⟩ := sound.attached id terminal member
    refine ⟨sound.terminals pane terminal reported, pane, fun other => ?_, reported⟩
    constructor
    · exact sound.alone known
    · rintro rfl
      exact known

end Lookups

section Preserved

variable {shared next : Shared} {reported more : List (String × String)}

theorem Grounded.mono {poll : Poll} (grounded : Grounded reported poll) (grows : reported ⊆ more) :
    Grounded more poll := by
  cases poll with
  | layout | fetched => exact List.Subset.trans grounded grows
  | registering pending =>
    intro assigned member
    have before := grounded assigned member
    cases assigned with
    | pane paneId terminalId => exact grows before
    | tab tabId => trivial
  | workspaces | tabs | panes | resolving => trivial

theorem pursue_grounded {tabs : List TabInfo} {panes : List PaneInfo} (listed : terminalsOf panes ⊆ reported)
    (layouts : TabLayouts) (rest : List TabInfo) : Grounded reported (pursue tabs panes layouts rest) := by
  induction rest with
  | nil => exact listed
  | cons tab rest ih =>
    rw [pursue]
    split_ifs
    · exact ih
    · split
      · exact ih
      · exact listed

theorem listed_grounded {panes : List PaneInfo} (listed : terminalsOf panes ⊆ reported) :
    ∀ assigned ∈ listedAssigns panes, assigned.Grounded reported := by
  intro assigned member
  obtain ⟨pane, here, rfl⟩ := List.mem_map.mp member
  exact listed (List.mem_map.mpr ⟨pane, here, rfl⟩)

theorem map_ok {α β : Type} {result : Except String α} {f : α -> β} {mapped : β} (ok : result.map f = .ok mapped) :
    ∃ value, result = .ok value ∧ f value = mapped := by
  cases result with
  | error message => cases ok
  | ok value => exact ⟨value, rfl, Except.ok.inj ok⟩

theorem answered_grounded {poll after : Poll} {api : Api} (grounded : Grounded reported poll)
    (answer : answered api poll = some (.ok after)) : Grounded (reported ++ reports api poll) after := by
  cases poll with
  | workspaces workspaceId =>
    obtain ⟨workspaces, _, rfl⟩ := map_ok (Option.some.inj answer)
    trivial
  | tabs workspaceId =>
    obtain ⟨tabs, _, rfl⟩ := map_ok (Option.some.inj answer)
    trivial
  | panes workspaceId tabs =>
    obtain ⟨panes, answers, rfl⟩ := map_ok (Option.some.inj answer)
    apply pursue_grounded
    simp [reports, answers]
  | layout tabs panes layouts paneId rest =>
    obtain ⟨layout, _, rfl⟩ := map_ok (Option.some.inj answer)
    exact pursue_grounded (List.Subset.trans grounded (List.subset_append_left _ _)) _ _
  | resolving workspaceId =>
    obtain ⟨panes, answers, rfl⟩ := map_ok (Option.some.inj answer)
    apply listed_grounded
    simp [reports, answers]
  | fetched | registering => cases answer

theorem infoByPane_lookup (panes : List PaneInfo) (paneId : String) :
    (infoByPane panes).lookup paneId = panes.reverse.find? (·.paneId = paneId) := by
  induction panes using List.reverseRecOn with
  | nil => rfl
  | append_singleton rest pane ih =>
    rw [infoByPane, List.foldl_append, List.reverse_append, List.reverse_singleton, List.singleton_append]
    by_cases same : pane.paneId = paneId
    · rw [List.find?_cons_of_pos (by simpa using same), ← same]
      exact AList.lookup_insert _
    · rw [List.find?_cons_of_neg (by simpa using same), ← ih]
      exact AList.lookup_insert_ne (Ne.symm same)

theorem infoByPane_listed {panes : List PaneInfo} {paneId : String} (listed : paneId ∈ panes.map (·.paneId)) :
    ∃ pane ∈ panes, pane.paneId = paneId ∧ (infoByPane panes).lookup paneId = some pane := by
  obtain ⟨pane, member, same⟩ := List.mem_map.mp listed
  have hit : (panes.reverse.find? (·.paneId = paneId)).isSome := by
    rw [List.find?_isSome]
    exact ⟨pane, List.mem_reverse.mpr member, decide_eq_true same⟩
  obtain ⟨found, here⟩ := Option.isSome_iff_exists.mp hit
  refine ⟨found, List.mem_reverse.mp (List.mem_of_find?_eq_some here), ?_, ?_⟩
  · simpa using List.find?_some here
  · rw [infoByPane_lookup, here]

theorem transcode_grounded {tabs : List TabInfo} {panes : List PaneInfo} {layouts : TabLayouts}
    (listed : terminalsOf panes ⊆ reported) (covers : Covers tabs panes layouts) :
    ∀ assigned ∈ transcodeAssigns tabs panes layouts, assigned.Grounded reported := by
  intro assigned member
  rcases List.mem_append.mp member with member | member
  · exact listed_grounded listed assigned member
  · obtain ⟨tab, tabMember, member⟩ := List.mem_flatMap.mp member
    rcases List.mem_cons.mp member with rfl | member
    · trivial
    · cases found : layouts.lookup tab.tabId with
      | none => simp [found] at member
      | some layout =>
        rw [found] at member
        obtain ⟨pane, paneMember, rfl⟩ := List.mem_map.mp member
        -- The pane is listed, so it has a terminal to be registered with.
        obtain ⟨info, infoMember, same, known⟩ := infoByPane_listed (covers tab tabMember layout found pane paneMember)
        rw [known, ← same]
        exact listed (List.mem_map.mpr ⟨info, infoMember, rfl⟩)

theorem Sound.settle (sound : Sound shared) (task : Nat) {outcome : Except String Poll}
    (grounded : ∀ poll, outcome = .ok poll -> Grounded shared.reported poll) : Sound (shared.settle task outcome) := by
  cases outcome with
  | error message =>
    refine { sound with polls := fun other poll found => ?_ }
    by_cases same : other = task
    · rw [same] at found
      simp [Shared.settle] at found
    · exact sound.polls other poll (by simpa [Shared.settle, AList.lookup_erase_ne same] using found)
  | ok after =>
    refine { sound with polls := fun other poll found => ?_ }
    by_cases same : other = task
    · rw [same] at found
      have outcome : after = poll := by simpa [Shared.settle] using found
      exact grounded poll (congrArg _ outcome)
    · exact sound.polls other poll (by simpa [Shared.settle, AList.lookup_insert_ne same] using found)

theorem Sound.begin (sound : Sound shared) {task : Nat} {poll : Poll} (grounded : Grounded shared.reported poll)
    (begun : shared.begin task poll = some next) : Sound next := by
  unfold Shared.begin at begun
  split_ifs at begun
  rw [← Option.some.inj begun]
  apply sound.settle task
  intro same outcome
  rw [← Except.ok.inj outcome]
  exact grounded

theorem Sound.report (sound : Sound shared) (terminals : ∀ pane terminal, (pane, terminal) ∈ more -> terminal ≠ "") :
    Sound { shared with reported := shared.reported ++ more } := by
  have grows : shared.reported ⊆ shared.reported ++ more := List.subset_append_left _ _
  constructor
  · exact sound.registry
  · exact sound.few
  · exact fun pane terminal member => grows (sound.calls pane terminal member)
  · intro pane terminal member
    exact (List.mem_append.mp member).elim (sound.terminals pane terminal) (terminals pane terminal)
  · exact fun task poll found => (sound.polls task poll found).mono grows
  · intro id terminal member
    obtain ⟨pane, known, reported⟩ := sound.attached id terminal member
    exact ⟨pane, known, grows reported⟩

theorem Sound.register (sound : Sound shared) {assigned : Assign} (grounded : assigned.Grounded shared.reported)
    (room : HasIds shared.registered assigned) : Sound (shared.register assigned) := by
  cases assigned with
  | tab tabId =>
    have same : shared.registered ++ (Assign.tab tabId).paneOps = shared.registered := List.append_nil _
    constructor
    · simp only [Shared.register, same]
      exact sound.registry
    · exact room
    · simp only [Shared.register, same]
      exact sound.calls
    · exact sound.terminals
    · exact sound.polls
    · exact sound.attached
  | pane paneId terminalId =>
    constructor
    · simp only [Shared.register, assign, Assign.paneOps, HerdrPaneRegistry.after, List.foldl_append]
      rw [sound.registry]
      rfl
    · exact room
    · intro pane terminal member
      rcases List.mem_append.mp member with member | member
      · exact sound.calls pane terminal member
      · obtain ⟨rfl, rfl⟩ : pane = paneId ∧ terminal = terminalId := by simpa [Assign.paneOps] using member
        exact grounded
    · exact sound.terminals
    · exact sound.polls
    · intro id terminal member
      obtain ⟨pane, known, reported⟩ := sound.attached id terminal member
      exact ⟨pane, HerdrPaneRegistry.idOf_stable known, reported⟩

theorem reports_terminals {poll : Poll} {task : Nat} {api : Api} (lists : Event.ListsTerminals (.answer task api)) :
    ∀ pane terminal, (pane, terminal) ∈ reports api poll -> terminal ≠ "" := by
  have listed (workspaceId pane terminal : String) (member : (pane, terminal) ∈ reports api (.resolving workspaceId)) :
      terminal ≠ "" := by
    cases answers : api.paneList workspaceId with
    | error message => simp [reports, answers] at member
    | ok panes =>
      simp only [reports, answers] at member
      obtain ⟨info, infoMember, same⟩ := List.mem_map.mp member
      rw [← (Prod.mk.inj same).2]
      exact lists workspaceId panes answers info infoMember
  intro pane terminal member
  cases poll with
  | panes workspaceId tabs => exact listed workspaceId pane terminal member
  | resolving workspaceId => exact listed workspaceId pane terminal member
  | workspaces | tabs | layout | fetched | registering => cases member

theorem sound_step {event : Event} (sound : Sound shared) (covered : Covered shared event)
    (lists : event.ListsTerminals) (taken : step shared event = some next) : Sound next := by
  cases event with
  | queryLayout task workspaceId =>
    have grounded : Grounded shared.reported (.workspaces workspaceId) := trivial
    exact sound.begin grounded taken
  | resolve task workspaceId =>
    have grounded : Grounded shared.reported (.resolving workspaceId) := trivial
    exact sound.begin grounded taken
  | answer task api =>
    cases found : shared.polls.lookup task with
    | none => simp [step, found] at taken
    | some poll =>
      simp only [step, found, Option.map_eq_some_iff] at taken
      obtain ⟨outcome, answer, rfl⟩ := taken
      apply (sound.report (reports_terminals lists)).settle task
      intro after same
      rw [same] at answer
      exact answered_grounded (sound.polls task poll found) answer
  | advance task =>
    cases found : shared.polls.lookup task with
    | none => simp [step, found] at taken
    | some poll =>
      have grounded := sound.polls task poll found
      cases poll with
      | fetched tabs panes layouts =>
        simp only [step, found, Option.some.injEq] at taken
        simp only [Covered, CoveredAt, found] at covered
        rw [← taken]
        apply sound.settle task
        intro after same
        rw [← Except.ok.inj same]
        exact transcode_grounded grounded covered
      | registering pending =>
        cases pending with
        | nil =>
          simp only [step, found, Option.some.injEq] at taken
          rw [← taken]
          have ended : ∀ poll, (.error "" : Except String Poll) = .ok poll -> Grounded shared.reported poll := by simp
          exact sound.settle task ended
        | cons assigned pending =>
          simp only [step, found, Option.some.injEq] at taken
          simp only [Covered, CoveredAt, found] at covered
          rw [← taken]
          apply (sound.register (grounded assigned List.mem_cons_self) covered).settle task
          intro after same
          rw [← Except.ok.inj same]
          exact fun later member => grounded later (List.mem_cons_of_mem assigned member)
      | workspaces | tabs | panes | layout | resolving => simp [step, found] at taken
  | focusPane pane =>
    simp only [step, Option.some.injEq] at taken
    rw [← taken]
    refine { sound with attached := fun id terminal member => ?_ }
    rcases List.mem_append.mp member with member | member
    · exact sound.attached id terminal member
    · cases known : shared.ids.panes.terminalId pane.id with
      | none => simp [known] at member
      | some terminalId =>
        obtain ⟨rfl, rfl⟩ : id = pane.id ∧ terminal = terminalId := by simpa [known] using member
        exact sound.owner known

end Preserved

/-- Whatever the order of the polls' steps, no pane loses its terminal, as long as the layouts' panes are
listed and there are ids for all panes. -/
theorem polls_keep_terminals (events : List Event) (final : Shared) (lists : ∀ event ∈ events, event.ListsTerminals)
    (covered : Meets step Covered Shared.new events) (ran : run step Shared.new events = some final) :
    Kept final := by
  have sound : Sound final := by
    refine invariant_of_meets ?_ sound_new (covered.and_forall lists) ran
    intro shared event next sound meets taken
    exact sound_step sound meets.1 meets.2 taken
  exact sound.kept

section OneTab

def oneTab (panes : List (String × String)) : Api :=
  { workspaceList := .ok [{ workspaceId := "w1", label := "main", focused := true, activeTabId := "t1" }]
    tabList := fun _ => .ok [{ tabId := "t1", number := 1, label := "shell" }]
    paneList := fun _ =>
      .ok (panes.map fun pane =>
        { paneId := pane.1, terminalId := pane.2, tabId := "t1", focused := false, cwd := none, label := none,
          title := none })
    paneLayout := fun _ =>
      .ok
        { tabId := "t1"
          zoomed := false
          panes := panes.map fun pane =>
            { paneId := pane.1, focused := false, rect := { x := 0, y := 0, width := 80, height := 24 } } }
    paneZoom := fun _ => .error "" }

-- A poll that meets one herdr in its three lists and another one in the layout.
def onePoll (listed laid : Api) (steps : Nat) : List Event :=
  [.queryLayout 0 "w1", .answer 0 listed, .answer 0 listed, .answer 0 listed, .answer 0 laid] ++
    List.replicate steps (.advance 0)

theorem onePoll_lists {listed laid : List (String × String)} {steps : Nat} (pane : UInt32)
    (named : ∀ pane ∈ listed ++ laid, pane.2 ≠ "") :
    ∀ event ∈ onePoll (oneTab listed) (oneTab laid) steps ++ [.focusPane (.terminal pane)], event.ListsTerminals := by
  have lists (panes : List (String × String)) (part : panes ⊆ listed ++ laid) :
      Event.ListsTerminals (.answer 0 (oneTab panes)) := by
    intro workspaceId infos answers info member
    have same : infos = _ := (Except.ok.inj answers).symm
    rw [same] at member
    obtain ⟨pane, here, rfl⟩ := List.mem_map.mp member
    exact named pane (part here)
  intro event member
  simp only [onePoll, List.cons_append, List.nil_append, List.mem_cons, List.mem_append, List.mem_replicate,
    List.not_mem_nil, or_false] at member
  rcases member with rfl | rfl | rfl | rfl | rfl | ⟨-, rfl⟩ | rfl
  · trivial
  · exact lists listed (List.subset_append_left _ _)
  · exact lists listed (List.subset_append_left _ _)
  · exact lists listed (List.subset_append_left _ _)
  · exact lists laid (List.subset_append_right _ _)
  · trivial
  · trivial

def beforeSplit : Api :=
  oneTab [("p1", "term-1")]

def afterSplit : Api :=
  oneTab [("p1", "term-1"), ("p2", "term-2")]

def quietPoll : List Event :=
  onePoll beforeSplit beforeSplit 5 ++ [.focusPane (.terminal 1)]

theorem polls_keep_terminals_quietPoll : ∃ final,
    run step Shared.new quietPoll = some final ∧ final.attached = [(1, "term-1")] ∧ Kept final := by
  have covered : Meets step Covered Shared.new quietPoll := by decide
  exact ⟨_, rfl, by decide, polls_keep_terminals quietPoll _ (onePoll_lists 1 (by decide)) covered rfl⟩

-- The second pane is split off after `pane.list`, so that only the layout knows it.
def splitPoll : List Event :=
  onePoll beforeSplit afterSplit 6 ++ [.focusPane (.terminal 2)]

-- The query's snapshot shows the second pane as 2, and the focus on it attaches to no terminal.
theorem splitPoll_loses_terminal :
    ((queryLayout (fun request => if request < 3 then beforeSplit else afterSplit) "w1" Shared.new.ids).1.map
      fun snapshot => snapshot.tabs.map fun tab => tab.panes.map (·.id)) = .ok [[1, 2]] ∧
    (∀ event ∈ splitPoll, event.ListsTerminals) ∧
    ∃ final, run step Shared.new splitPoll = some final ∧ final.attached = [(2, "")] ∧ ¬ Kept final := by
  refine ⟨rfl, onePoll_lists 2 (by decide), _, rfl, by decide, ?_⟩
  intro kept
  exact (kept.attached 2 "" (by decide)).1 rfl

end OneTab

end Muxrd.Polls
