import Muxrd.Herdr.Focus
import Muxrd.Herdr.Selection
import Muxrd.Herdr.Terminals

set_option autoImplicit false

namespace Muxrd.Herdr

open Interning Polls

section Registrations

def paneRegistration : Assign -> Option (Call PaneEntry.herdrPaneId)
  | .pane paneId terminalId => some ⟨paneId, paneSighting paneId terminalId⟩
  | .tab _ => none

def tabRegistration : Assign -> Option (Call (id : String -> String))
  | .pane _ _ => none
  | .tab tabId => some ⟨tabId, tabSighting tabId⟩

theorem assigns_panes (assigns : List Assign) (ids : Ids) :
    (assigns.foldl assign ids).panes.inner = ids.panes.inner.serve (assigns.filterMap paneRegistration) := by
  induction assigns generalizing ids with
  | nil => rfl
  | cons next rest ih => cases next <;> exact ih _

theorem assigns_tabs (assigns : List Assign) (ids : Ids) :
    (assigns.foldl assign ids).tabs.inner = ids.tabs.inner.serve (assigns.filterMap tabRegistration) := by
  induction assigns generalizing ids with
  | nil => rfl
  | cons next rest ih => cases next <;> exact ih _

structure Ids.Extends (before after : Ids) : Prop where
  panes : ∀ pane id, before.panes.idOf pane = some id -> after.panes.idOf pane = some id
  tabs : ∀ tab id, before.tabs.idOf tab = some id -> after.tabs.idOf tab = some id

theorem Ids.extends_assigns (ids : Ids) (assigns : List Assign) : ids.Extends (assigns.foldl assign ids) := by
  constructor
  · intro pane id known
    rw [HerdrPaneRegistry.idOf, assigns_panes]
    exact Table.lookup_serve _ _ known
  · intro tab id known
    rw [HerdrTabRegistry.idOf, assigns_tabs]
    exact Table.lookup_serve _ _ known

end Registrations

section Parts

variable {panes : List PaneInfo} {layouts : TabLayouts}

def listedAs (panes : List PaneInfo) (paneId : String) : Option PaneInfo :=
  panes.find? (·.paneId = paneId)

def geometry (layouts : TabLayouts) (tab : TabInfo) : List PaneLayoutPane :=
  ((layouts.lookup tab.tabId).map (·.panes)).getD []

def zoomedTab (layouts : TabLayouts) (tab : TabInfo) : Bool :=
  (layouts.lookup tab.tabId).any (·.zoomed)

structure PaneOf (panes : List PaneInfo) (registry : HerdrPaneRegistry) (zoomed : Bool) (pane : PaneLayoutPane)
    (snapshot : PaneSnapshot) : Prop where
  id : registry.idOf pane.paneId = some snapshot.id
  place : snapshot.x.toNat = pane.rect.x.toNat ∧ snapshot.y.toNat = pane.rect.y.toNat
  size : snapshot.rows.toNat = pane.rect.height.toNat ∧ snapshot.cols.toNat = pane.rect.width.toNat
  focused : snapshot.isFocused = pane.focused
  -- The title is preferred to the label, and a pane that is not listed has neither.
  title : snapshot.title = ((listedAs panes pane.paneId).bind fun info => info.title.or info.label).getD ""
  cwd : snapshot.cwd = ((listedAs panes pane.paneId).bind (·.cwd)).getD ""
  fullscreen : snapshot.isFullscreen = zoomed

structure TabOf (panes : List PaneInfo) (layouts : TabLayouts) (activeTabId : String) (after : Ids) (tab : TabInfo)
    (snapshot : TabSnapshot) : Prop where
  id : after.tabs.idOf tab.tabId = some snapshot.tabId
  panes : List.Forall₂ (PaneOf panes after.panes (zoomedTab layouts tab)) (geometry layouts tab) snapshot.panes
  active : snapshot.active = true ↔ tab.tabId = activeTabId
  zoomed : snapshot.fullscreenActive = zoomedTab layouts tab

theorem infoByPane_listedAs (distinct : (panes.map (·.paneId)).Nodup) (paneId : String) :
    (infoByPane panes).lookup paneId = listedAs panes paneId := by
  rw [infoByPane_lookup, listedAs]
  cases found : panes.find? (·.paneId = paneId) with
  | none =>
    rw [List.find?_eq_none] at found ⊢
    intro pane member
    exact found pane (List.mem_reverse.mp member)
  | some pane =>
    have listed := List.mem_of_find?_eq_some found
    have same : pane.paneId = paneId := by simpa using List.find?_some found
    have hit : (panes.reverse.find? (·.paneId = paneId)).isSome :=
      List.find?_isSome.mpr ⟨pane, List.mem_reverse.mpr listed, decide_eq_true same⟩
    obtain ⟨last, here⟩ := Option.isSome_iff_exists.mp hit
    have also : last.paneId = paneId := by simpa using List.find?_some here
    have lastListed := List.mem_reverse.mp (List.mem_of_find?_eq_some here)
    rw [here, List.inj_on_of_nodup_map distinct lastListed listed (also.trans same.symm)]

theorem PaneOf.extended {registry after : HerdrPaneRegistry} {zoomed : Bool} {pane : PaneLayoutPane}
    {snapshot : PaneSnapshot} (of : PaneOf panes registry zoomed pane snapshot)
    (grown : ∀ pane id, registry.idOf pane = some id -> after.idOf pane = some id) :
    PaneOf panes after zoomed pane snapshot :=
  { of with id := grown _ _ of.id }

theorem TabOf.extended {activeTabId : String} {before after : Ids} {tab : TabInfo} {snapshot : TabSnapshot}
    (of : TabOf panes layouts activeTabId before tab snapshot) (grown : before.Extends after) :
    TabOf panes layouts activeTabId after tab snapshot :=
  { of with
    id := grown.tabs _ _ of.id
    panes := of.panes.imp fun _ _ pane => pane.extended grown.panes }

theorem transcodePane_paneOf (distinct : (panes.map (·.paneId)).Nodup) (zoomed : Bool) (pane : PaneLayoutPane)
    (registry : HerdrPaneRegistry) :
    PaneOf panes (transcodePane (infoByPane panes) zoomed pane registry).2 zoomed pane
      (transcodePane (infoByPane panes) zoomed pane registry).1 := by
  have info := infoByPane_listedAs distinct pane.paneId
  refine { id := HerdrPaneRegistry.idOf_assigned, place := ⟨?_, ?_⟩, size := ⟨?_, ?_⟩, focused := rfl,
           title := ?_, cwd := ?_, fullscreen := rfl }
  · simp [transcodePane]
  · simp [transcodePane]
  · simp [transcodePane]
  · simp [transcodePane]
  · simp only [transcodePane, info]
    cases listedAs panes pane.paneId with
    | none => rfl
    | some found => cases title : found.title <;> simp [title]
  · simp only [transcodePane, info]

theorem transcodePanes_paneOf (distinct : (panes.map (·.paneId)).Nodup) (zoomed : Bool)
    (laid : List PaneLayoutPane) (registry : HerdrPaneRegistry) :
    List.Forall₂ (PaneOf panes (transcodePanes (infoByPane panes) zoomed laid registry).2 zoomed) laid
      (transcodePanes (infoByPane panes) zoomed laid registry).1 := by
  induction laid generalizing registry with
  | nil => exact .nil
  | cons pane rest ih =>
    refine .cons ?_ (ih _)
    apply (transcodePane_paneOf distinct zoomed pane registry).extended
    exact fun other id known => transcodePanes_stable rest _ known

theorem transcodeTab_tabOf (distinct : (panes.map (·.paneId)).Nodup) (activeTabId : String) (tab : TabInfo)
    (ids : Ids) :
    TabOf panes layouts activeTabId (transcodeTab (infoByPane panes) layouts activeTabId tab ids).2 tab
      (transcodeTab (infoByPane panes) layouts activeTabId tab ids).1 := by
  have zoomed : ((layouts.lookup tab.tabId).map (·.zoomed)).getD false = zoomedTab layouts tab := by
    unfold zoomedTab
    cases layouts.lookup tab.tabId <;> rfl
  refine { id := Table.lookup_assigned _ _, panes := ?_, active := by simp [transcodeTab], zoomed }
  rw [← zoomed]
  exact transcodePanes_paneOf distinct _ _ _

theorem transcodeTabs_tabOf (distinct : (panes.map (·.paneId)).Nodup) (activeTabId : String) (tabs : List TabInfo)
    (ids : Ids) :
    List.Forall₂ (TabOf panes layouts activeTabId (transcodeTabs (infoByPane panes) layouts activeTabId tabs ids).2)
      tabs (transcodeTabs (infoByPane panes) layouts activeTabId tabs ids).1 := by
  induction tabs generalizing ids with
  | nil => exact .nil
  | cons tab rest ih =>
    refine .cons ?_ (ih _)
    apply (transcodeTab_tabOf distinct activeTabId tab ids).extended
    change Ids.Extends _ (transcodeTabs (infoByPane panes) layouts activeTabId rest _).2
    rw [transcodeTabs_assigns]
    exact Ids.extends_assigns _ _

end Parts

section Whole

variable {tabs : List TabInfo} {panes : List PaneInfo} {layouts : TabLayouts} {activeTabId : String} {before : Ids}

def panesAsked (tabs : List TabInfo) (panes : List PaneInfo) (layouts : TabLayouts) : List String :=
  panes.map (·.paneId) ++ (tabs.flatMap (geometry layouts)).map (·.paneId)

def tabsAsked (tabs : List TabInfo) : List String :=
  tabs.map (·.tabId)

structure Transcoded (tabs : List TabInfo) (panes : List PaneInfo) (layouts : TabLayouts) (activeTabId : String)
    (before : Ids) (snapshot : LayoutSnapshot) (after : Ids) : Prop where
  snapshots : List.Forall₂ (TabOf panes layouts activeTabId after) tabs snapshot.tabs
  listed : ∀ pane ∈ panes, ∃ id, after.panes.Resolves pane.paneId id pane.terminalId
  laid : ∀ tab ∈ tabs, ∀ pane ∈ geometry layouts tab, ∃ id,
    after.panes.idOf pane.paneId = some id ∧ after.panes.herdrPaneId id = some pane.paneId
  owners : ∀ tab ∈ tabs, ∃ id, after.tabs.idOf tab.tabId = some id ∧ after.tabs.herdrTabId id = some tab.tabId
  stable : before.Extends after

theorem tabAssigns_eq (tab : TabInfo) :
    tabAssigns panes layouts tab = .tab tab.tabId :: (geometry layouts tab).map fun pane =>
      .pane pane.paneId ((((infoByPane panes).lookup pane.paneId).map (·.terminalId)).getD "") := by
  unfold tabAssigns geometry
  cases layouts.lookup tab.tabId <;> rfl

theorem mem_transcodeAssigns {assigned : Assign} :
    assigned ∈ transcodeAssigns tabs panes layouts ↔
      (∃ pane ∈ panes, assigned = .pane pane.paneId pane.terminalId) ∨ ∃ tab ∈ tabs,
        assigned = .tab tab.tabId ∨ ∃ pane ∈ geometry layouts tab,
          assigned = .pane pane.paneId ((((infoByPane panes).lookup pane.paneId).map (·.terminalId)).getD "") := by
  simp only [transcodeAssigns, List.mem_append, listedAssigns, List.mem_map, List.mem_flatMap, tabAssigns_eq,
    List.mem_cons]
  simp only [eq_comm]

theorem tabAssigns_panes (tab : TabInfo) :
    keysOf ((tabAssigns panes layouts tab).filterMap paneRegistration) =
      (geometry layouts tab).map (·.paneId) := by
  rw [tabAssigns_eq, List.filterMap_cons_none rfl, List.filterMap_map, keysOf, List.map_filterMap]
  simp [paneRegistration]

theorem paneRegistrations_keys :
    keysOf ((transcodeAssigns tabs panes layouts).filterMap paneRegistration) = panesAsked tabs panes layouts := by
  rw [transcodeAssigns, List.filterMap_append, keysOf_append, panesAsked]
  congr 1
  · rw [listedAssigns, List.filterMap_map, keysOf, List.map_filterMap]
    simp [paneRegistration]
  · induction tabs with
    | nil => rfl
    | cons tab rest ih =>
      rw [List.flatMap_cons, List.filterMap_append, keysOf_append, tabAssigns_panes, ih, List.flatMap_cons,
        List.map_append]

theorem tabRegistrations_keys :
    keysOf ((transcodeAssigns tabs panes layouts).filterMap tabRegistration) = tabsAsked tabs := by
  have listed : (listedAssigns panes).filterMap tabRegistration = [] := by
    rw [listedAssigns, List.filterMap_map, List.filterMap_eq_nil_iff]
    exact fun _ _ => rfl
  rw [transcodeAssigns, List.filterMap_append, listed, List.nil_append]
  induction tabs with
  | nil => rfl
  | cons tab rest ih =>
    have laid : (tabAssigns panes layouts tab).filterMap tabRegistration = [⟨tab.tabId, tabSighting tab.tabId⟩] := by
      simp [tabAssigns_eq, tabRegistration, List.filterMap_map]
    rw [List.flatMap_cons, List.filterMap_append, laid, keysOf_append, ih]
    rfl

theorem paneRegistrations_listed (distinct : (panes.map (·.paneId)).Nodup) {pane : PaneInfo} (listed : pane ∈ panes) :
    latest ((transcodeAssigns tabs panes layouts).filterMap paneRegistration) pane.paneId =
      some { herdrPaneId := pane.paneId, terminalId := pane.terminalId } := by
  have found : listedAs panes pane.paneId = some pane := by
    have hit : (panes.find? (·.paneId = pane.paneId)).isSome :=
      List.find?_isSome.mpr ⟨pane, listed, decide_eq_true rfl⟩
    obtain ⟨first, here⟩ := Option.isSome_iff_exists.mp hit
    have same : first.paneId = pane.paneId := by simpa using List.find?_some here
    rw [listedAs, here, List.inj_on_of_nodup_map distinct (List.mem_of_find?_eq_some here) listed same]
  apply latest_of_agreeing
  · rw [paneRegistrations_keys, panesAsked]
    exact List.mem_append_left _ (List.mem_map_of_mem listed)
  · intro call member same
    obtain ⟨assigned, asked, registers⟩ := List.mem_filterMap.mp member
    rcases mem_transcodeAssigns.mp asked with ⟨other, otherListed, rfl⟩ | ⟨tab, _, rfl | ⟨laid, _, rfl⟩⟩
    · obtain rfl := Option.some.inj registers
      rw [List.inj_on_of_nodup_map distinct otherListed listed same]
      rfl
    · cases registers
    · obtain rfl := Option.some.inj registers
      change laid.paneId = pane.paneId at same
      rw [same, infoByPane_listedAs distinct, found]
      rfl

/-- The layout that a transcoding puts together, tab by tab and pane by pane. -/
theorem transcode_layout_structure (tabs : List TabInfo) (panes : List PaneInfo)
    (distinct : (panes.map (·.paneId)).Nodup) (layouts : TabLayouts) (activeTabId : String) (before : Ids)
    (panesBelow : before.panes.BelowExhaustion (panesAsked tabs panes layouts))
    (tabsBelow : before.tabs.inner.BelowExhaustion (tabsAsked tabs)) :
    Transcoded tabs panes layouts activeTabId before (transcodeLayout tabs panes layouts activeTabId before).1
      (transcodeLayout tabs panes layouts activeTabId before).2 := by
  have assigned := transcodeLayout_assigns before panes tabs layouts activeTabId
  have paneTable := assigns_panes (transcodeAssigns tabs panes layouts) before
  have tabTable := assigns_tabs (transcodeAssigns tabs panes layouts) before
  have panesServed : before.panes.inner.BelowExhaustion
      (keysOf ((transcodeAssigns tabs panes layouts).filterMap paneRegistration)) := by
    rw [paneRegistrations_keys]
    exact panesBelow
  have tabsServed : before.tabs.inner.BelowExhaustion
      (keysOf ((transcodeAssigns tabs panes layouts).filterMap tabRegistration)) := by
    rw [tabRegistrations_keys]
    exact tabsBelow
  have snapshots : List.Forall₂
      (TabOf panes layouts activeTabId (transcodeLayout tabs panes layouts activeTabId before).2) tabs
      (transcodeLayout tabs panes layouts activeTabId before).1.tabs := transcodeTabs_tabOf distinct activeTabId tabs _
  rw [assigned] at snapshots ⊢
  constructor
  · exact snapshots
  · intro pane listed
    apply HerdrPaneRegistry.resolves_of_entry
    rw [paneTable, Table.entryOf_serve panesServed, paneRegistrations_listed distinct listed, Option.some_or]
  · intro tab member pane laid
    have asked : pane.paneId ∈ keysOf ((transcodeAssigns tabs panes layouts).filterMap paneRegistration) := by
      rw [paneRegistrations_keys, panesAsked]
      exact List.mem_append_right _ (List.mem_map_of_mem (List.mem_flatMap.mpr ⟨tab, member, laid⟩))
    obtain ⟨id, known⟩ := Table.lookup_served before.panes.inner asked
    obtain ⟨entry, found, own⟩ := panesServed.served.entry known
    rw [← paneTable] at known found
    exact ⟨id, known, by rw [HerdrPaneRegistry.herdrPaneId, found, Option.map_some, own]⟩
  · intro tab member
    have asked : tab.tabId ∈ keysOf ((transcodeAssigns tabs panes layouts).filterMap tabRegistration) := by
      rw [tabRegistrations_keys, tabsAsked]
      exact List.mem_map_of_mem member
    obtain ⟨id, known⟩ := Table.lookup_served before.tabs.inner asked
    obtain ⟨entry, found, own⟩ := tabsServed.served.entry known
    have same : entry = tab.tabId := own
    rw [← tabTable] at known found
    exact ⟨id, known, by rw [HerdrTabRegistry.herdrTabId, found, same]⟩
  · exact before.extends_assigns _

section Mixed

def twoTabs : List TabInfo :=
  [{ tabId := "left", number := 1, label := "Left" }, { tabId := "right", number := 2, label := "Right" }]

-- The second pane is laid out in the left tab and not listed; the right tab has no geometry.
def leftOnly : TabLayouts :=
  AList.singleton "left"
    { tabId := "left", zoomed := true
      panes := [{ paneId := "a", focused := true, rect := ⟨0, 0, 40, 24⟩ },
        { paneId := "new", focused := false, rect := ⟨40, 0, 40, 24⟩ }] }

theorem transcode_layout_structure_mixed :
    Transcoded twoTabs Selection.crossTab leftOnly "right" Selection.freshIds
      (transcodeLayout twoTabs Selection.crossTab leftOnly "right" Selection.freshIds).1
      (transcodeLayout twoTabs Selection.crossTab leftOnly "right" Selection.freshIds).2 ∧
    (transcodeLayout twoTabs Selection.crossTab leftOnly "right" Selection.freshIds).1.tabs.map (·.panes.map (·.id)) =
      [[1, 4], []] :=
  ⟨transcode_layout_structure twoTabs Selection.crossTab (by decide) leftOnly "right" Selection.freshIds
    (HerdrPaneRegistry.belowExhaustion_new (by decide))
    (Table.belowExhaustion_empty ⟨2, by decide, 3, by decide, trivial⟩), by decide⟩

end Mixed

end Whole

end Muxrd.Herdr
