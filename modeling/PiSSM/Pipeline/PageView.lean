import PiSSM.Dashboard.InferencePage
import PiSSM.Lib.Traces

/-!
What the inference page shows, without the closures of its effects. A view has one current
run, that of the selected model, and follows what that run's calls bring; everything that
earlier runs still bring is dropped. The page refines it under every order of clicks, timers,
replies and tokens.
-/

namespace PiSSM.Pipeline

open PiSSM.Lib
open PiSSM.Dashboard

/-- `begun` counts the runs, which are numbered in order; `turns` are answered and `asked` has
the input that is being answered with its answer so far. -/
structure PageView where
  selected : String
  begun : Nat
  current : Option Nat
  status : ModelLoadStatus
  redistributing : Bool
  turns : List (String × String)
  asked : Option (String × String)

namespace PageView

def initial : PageView := ⟨"", 0, none, .notLoaded, false, [], none⟩

/-- A new run replaces the current one. -/
def begin (view : PageView) : PageView :=
  { view with begun := view.begun + 1, current := some view.begun, status := .loading }

def select (view : PageView) (name : String) : PageView :=
  if name = "" then { view with selected := name, current := none }
  else { view with selected := name }.begin

/-- A call that fails is an error of the model. -/
def reported : Except String ModelStatus → ModelLoadStatus
  | .ok status => status.status
  | .error _ => .error

def showStatus (view : PageView) (status : ModelLoadStatus) : PageView :=
  { view with status := status, redistributing := !status.terminal && view.redistributing }

def next (view : PageView) : PageLabel → PageView
  | .select name => view.select name
  | .redistribute => { view with redistributing := true }.begin
  | .statusSettled run result =>
      if view.current = some run then view.showStatus (reported result) else view
  | .send _ input => { view with asked := some (input, "") }
  | .token token => { view with asked := view.asked.map fun turn => (turn.1, turn.2 ++ token) }
  | .streamEnded (.ok _) =>
      { view with turns := view.turns ++ view.asked.toList, asked := none }
  | .streamEnded (.error message) =>
      { view with
        turns := view.turns ++ view.asked.toList.map fun turn => (turn.1, s!"Error: {message}")
        asked := none }
  | .type _ | .tick | .actionSettled _ => view

/-- An input goes to the selected model when it is ready and nothing else is being answered;
a redistribution waits for the end of the one before; a reply answers a call. -/
def Allows (view : PageView) : PageLabel → Prop
  | .send model input =>
      model = view.selected ∧ view.status = .ready ∧ view.asked = none ∧ trim input.toList ≠ []
  | .redistribute =>
      view.selected ≠ "" ∧ view.redistributing = false ∧ view.status.terminal = true
  | .token _ | .streamEnded _ => view.asked ≠ none
  | .actionSettled run | .statusSettled run _ => run < view.begun
  | .select name => name ≠ view.selected
  | .type _ => view.status = .ready ∧ view.asked = none
  | .tick => view.current ≠ none

/-- The view after some labels. -/
def after (labels : List PageLabel) : PageView := labels.foldl next initial

end PageView

/-- What of a page a view has. -/
structure ShowsView (page : InferencePage) (view : PageView) : Prop where
  selected : page.selectedModel = view.selected
  status : page.modelStatus = view.status
  redistributing : page.redistributing = view.redistributing
  begun : page.runs.length = view.begun
  cancelled : ∀ {number : Nat} {run : EffectRun}, page.runs[number]? = some run →
    (run.cancelled = false ↔ view.current = some number)
  current : ∀ {number : Nat}, view.current = some number → number + 1 = view.begun ∧
    ∃ run, page.runs[number]? = some run ∧ run.model = view.selected ∧ view.selected ≠ ""
  calls : ∀ {number : Nat}, .action number ∈ page.calls ∨ .status number ∈ page.calls →
    number < view.begun
  messages : page.chat.messages = transcript (view.turns ++ view.asked.toList)
  answering : page.answering = view.asked.map fun _ => 2 * view.turns.length + 2

theorem showsView_initial : ShowsView .initial .initial where
  selected := rfl
  status := rfl
  redistributing := rfl
  begun := rfl
  cancelled hrun := by cases hrun
  current hcurrent := by cases hcurrent
  calls hmem := by rcases hmem with hmem | hmem <;> cases hmem
  messages := rfl
  answering := rfl

namespace ShowsView

variable {page next : InferencePage} {view : PageView}

/-- The cleanup leaves no run that is not cancelled. -/
theorem cleanup (hshows : ShowsView page view) {number : Nat} {run : EffectRun}
    (hrun : (page.runs.modify (page.runs.length - 1) EffectRun.cancel)[number]? = some run) :
    run.cancelled = true := by
  rw [List.getElem?_modify] at hrun
  obtain ⟨before, hbefore, rfl⟩ := Option.map_eq_some_iff.mp hrun
  split
  · rfl
  · next hlast =>
      have hlength := (List.getElem?_eq_some_iff.mp hbefore).1
      cases hcancelled : before.cancelled with
      | true => rfl
      | false =>
          have hcurrent := (hshows.cancelled hbefore).mp hcancelled
          have hnumber := (hshows.current hcurrent).1
          have hbegun := hshows.begun
          omega

/-- A run that begins is the current one. -/
theorem begin (hshows : ShowsView page view) {name : String} (hname : name ≠ "")
    (action : PendingAction) (redistributing : Bool) :
    ShowsView { page with
        selectedModel := name
        pendingAction := action
        redistributing := redistributing }.runEffect
      { view with selected := name, redistributing := redistributing }.begin := by
  unfold InferencePage.runEffect
  dsimp only
  rw [if_neg hname]
  have hlength : (page.runs.modify (page.runs.length - 1) EffectRun.cancel).length =
      view.begun := by
    rw [List.length_modify, hshows.begun]
  refine ⟨rfl, rfl, rfl, ?_, fun {number run} hrun => ?_, fun {number} hcurrent => ?_,
    fun {number} hmem => ?_, hshows.messages, hshows.answering⟩
  · simp only [InferencePage.cleanup, PageView.begin, List.length_append, List.length_singleton,
      hlength]
  · simp only [InferencePage.cleanup, PageView.begin] at hrun ⊢
    rw [List.getElem?_append] at hrun
    split at hrun
    · next hlt =>
        rw [hlength] at hlt
        have hcancelled := hshows.cleanup hrun
        simp [hcancelled, Nat.ne_of_gt hlt]
    · next hge =>
        rw [hlength] at hge hrun
        obtain ⟨hindex, rfl⟩ := List.getElem?_eq_some_iff.mp hrun
        simp only [List.length_singleton] at hindex
        have hnumber : number = view.begun := by omega
        simp [hnumber]
  · obtain rfl := Option.some.inj hcurrent
    refine ⟨rfl, ⟨name, action, false⟩, ?_, rfl, hname⟩
    simp only [InferencePage.cleanup, ← hlength, List.getElem?_concat_length]
  · simp only [InferencePage.cleanup, List.mem_append, List.mem_singleton] at hmem
    have hlt : number < view.begun ∨ number = view.begun := by
      rcases hmem with (hmem | hmem) | (hmem | hmem)
      · exact .inl (hshows.calls (.inl hmem))
      · rw [hlength] at hmem
        exact .inr (PageCall.action.inj hmem)
      · exact .inl (hshows.calls (.inr hmem))
      · cases hmem
    simp only [PageView.begin]
    omega

theorem clear (hshows : ShowsView page view) (action : PendingAction) :
    ShowsView { page with selectedModel := "", pendingAction := action }.runEffect
      { view with selected := "", current := none } := by
  unfold InferencePage.runEffect
  dsimp only
  rw [if_pos rfl]
  refine { hshows with
    selected := rfl
    begun := (List.length_modify ..).trans hshows.begun
    cancelled := fun {number run} hrun => ?_
    current := fun hcurrent => ?_ }
  · have hcancelled := hshows.cleanup hrun
    simp [hcancelled]
  · cases hcurrent

theorem select (hshows : ShowsView page view) {name : String}
    (hstep : page.handleSelectModel name = some next) :
    name ≠ view.selected ∧ ShowsView next (view.select name) := by
  unfold InferencePage.handleSelectModel at hstep
  split at hstep
  · cases hstep
  · next hother =>
      obtain rfl := Option.some.inj hstep
      refine ⟨hshows.selected ▸ hother, ?_⟩
      unfold PageView.select
      split
      · next hnone =>
          subst hnone
          exact hshows.clear .load
      · next hname =>
          have hview : { view with selected := name, redistributing := page.redistributing } =
              { view with selected := name } := by
            rw [hshows.redistributing]
          exact hview ▸ hshows.begin hname .load page.redistributing

theorem redistribute (hshows : ShowsView page view) (hstep : page.handleRedistribute = some next) :
    view.Allows .redistribute ∧ ShowsView next (view.next .redistribute) := by
  unfold InferencePage.handleRedistribute at hstep
  split at hstep
  · next hcan =>
      obtain rfl := Option.some.inj hstep
      simp only [InferencePage.canRedistribute, Bool.and_eq_true, Bool.not_eq_true',
        decide_eq_true_eq] at hcan
      obtain ⟨⟨hidle, hstatus⟩, hname⟩ := hcan
      rw [hshows.redistributing] at hidle
      rw [hshows.status] at hstatus
      have hview : { view with selected := page.selectedModel, redistributing := true } =
          { view with redistributing := true } := by
        rw [hshows.selected]
      have hbegun := hshows.begin hname .redistribute true
      rw [hview] at hbegun
      exact ⟨⟨hshows.selected ▸ hname, hidle, hstatus⟩, hbegun⟩
  · cases hstep

theorem setInput (hshows : ShowsView page view) {text : String}
    (hstep : page.setInput text = some next) :
    view.Allows (.type text) ∧ ShowsView next view := by
  unfold InferencePage.setInput at hstep
  split at hstep
  · next henabled =>
      obtain rfl := Option.some.inj hstep
      obtain ⟨hanswering, hready⟩ := henabled
      have hstatus : page.modelStatus = .ready := of_decide_eq_true hready
      rw [hshows.answering, Option.map_eq_none_iff] at hanswering
      exact ⟨⟨hshows.status ▸ hstatus, hanswering⟩, { hshows with }⟩
  · cases hstep

/-- A call comes back. -/
theorem returned (hshows : ShowsView page view) (call : PageCall) :
    ShowsView { page with calls := page.calls.erase call } view :=
  { hshows with
    calls := fun hmem => hshows.calls (hmem.imp List.mem_of_mem_erase List.mem_of_mem_erase) }

/-- A run asks for its status. -/
theorem addStatus (hshows : ShowsView page view) {run : Nat} (hrun : run < view.begun) :
    ShowsView { page with calls := page.calls ++ [.status run] } view := by
  refine { hshows with calls := fun {number} hmem => ?_ }
  simp only [List.mem_append, List.mem_singleton] at hmem
  rcases hmem with (hmem | hmem) | (hmem | hmem)
  · exact hshows.calls (.inl hmem)
  · cases hmem
  · exact hshows.calls (.inr hmem)
  · exact PageCall.status.inj hmem ▸ hrun

theorem tick (hshows : ShowsView page view) (hstep : page.tick = some next) :
    view.Allows .tick ∧ ShowsView next view := by
  unfold InferencePage.tick at hstep
  split at hstep
  · next model action hlast =>
      obtain rfl := Option.some.inj hstep
      rw [List.getLast?_eq_getElem?] at hlast
      have hcurrent := (hshows.cancelled hlast).mp rfl
      have hbegun := hshows.begun
      have hnumber := (hshows.current hcurrent).1
      have hrun : page.runs.length - 1 < view.begun := by omega
      refine ⟨fun hnone => ?_, hshows.addStatus hrun⟩
      rw [hcurrent] at hnone
      cases hnone
  · cases hstep

theorem actionSettled (hshows : ShowsView page view) {run : Nat}
    (hstep : page.actionSettled run = some next) :
    view.Allows (.actionSettled run) ∧ ShowsView next view := by
  unfold InferencePage.actionSettled at hstep
  split at hstep
  · next hcall =>
      obtain rfl := Option.some.inj hstep
      have hrun := hshows.calls (.inl hcall)
      exact ⟨hrun, (hshows.returned (.action run)).addStatus hrun⟩
  · cases hstep

theorem showStatus (hshows : ShowsView page view) (result : Except String ModelStatus) :
    ShowsView (page.showStatus result) (view.showStatus (PageView.reported result)) := by
  cases result with
  | ok status =>
      have hredistributing := congrArg (!status.status.terminal && ·) hshows.redistributing
      exact { hshows with status := rfl, redistributing := hredistributing }
  | error message => exact { hshows with status := rfl, redistributing := rfl }

/-- A reply is shown if and only if it is one of the current run. -/
theorem statusSettled (hshows : ShowsView page view) {run : Nat}
    {result : Except String ModelStatus} (hstep : page.statusSettled run result = some next) :
    view.Allows (.statusSettled run result) ∧
      ShowsView next (view.next (.statusSettled run result)) := by
  unfold InferencePage.statusSettled at hstep
  split at hstep
  · next hcall =>
      have hrun := hshows.calls (.inr hcall)
      have hreturned := hshows.returned (.status run)
      refine ⟨hrun, ?_⟩
      change ShowsView next (if view.current = some run then
        view.showStatus (PageView.reported result) else view)
      dsimp only at hstep
      split at hstep
      · next hfound =>
          obtain rfl := Option.some.inj hstep
          rw [if_pos ((hshows.cancelled hfound).mp rfl)]
          exact hreturned.showStatus result
      · next hother =>
          obtain rfl := Option.some.inj hstep
          have hnot : view.current ≠ some run := by
            intro hcurrent
            have hlt : run < page.runs.length := hshows.begun ▸ hrun
            have hfound := List.getElem?_eq_getElem hlt
            have hcancelled := (hshows.cancelled hfound).mpr hcurrent
            apply hother page.runs[run].model page.runs[run].action
            rw [hfound, ← hcancelled]
          rw [if_neg hnot]
          exact hreturned
  · cases hstep

theorem send (hshows : ShowsView page view) {model input : String}
    (hstep : page.handleSend model input = some next) :
    view.Allows (.send model input) ∧ ShowsView next (view.next (.send model input)) := by
  unfold InferencePage.handleSend at hstep
  split at hstep
  · next hcan =>
      obtain rfl := Option.some.inj hstep
      obtain ⟨hsend, rfl, rfl⟩ := hcan
      simp only [InferencePage.canSend, InferencePage.modelReady, Bool.and_eq_true,
        decide_eq_true_eq] at hsend
      obtain ⟨⟨hstatus, hanswering⟩, hinput⟩ := hsend
      rw [hshows.answering, Option.map_eq_none_iff] at hanswering
      have hmessages : page.chat.messages = transcript view.turns := by
        rw [hshows.messages, hanswering, Option.toList_none, List.append_nil]
      have hlength : page.chat.messages.length = 2 * view.turns.length := by
        rw [hmessages, transcript_length]
      refine ⟨⟨hshows.selected, hshows.status ▸ hstatus, hanswering, hinput⟩,
        { hshows with messages := ?_, answering := ?_ }⟩
      · simp only [PageView.next, Option.toList_some, transcript_concat, Chat.send,
          Chat.userMessage, Chat.assistantMessage, Chat.assistantId, hlength]
        rw [hmessages]
      · simp only [PageView.next, Option.map_some, Chat.assistantId, hlength]
  · cases hstep

theorem onToken (hshows : ShowsView page view) {token : String}
    (hstep : page.onToken token = some next) :
    view.Allows (.token token) ∧ ShowsView next (view.next (.token token)) := by
  obtain ⟨assistantId, hanswering, rfl⟩ := Option.map_eq_some_iff.mp hstep
  rw [hshows.answering] at hanswering
  obtain ⟨turn, hturn, rfl⟩ := Option.map_eq_some_iff.mp hanswering
  have hmessages := hshows.messages
  rw [hturn, Option.toList_some] at hmessages
  refine ⟨by simp [PageView.Allows, hturn],
    { hshows with messages := ?_, answering := ?_ }⟩
  · have hlast := transcript_map_last view.turns turn fun m hm =>
      Message.appendToken_of_ne hm token
    have hanswer : Message.appendToken (2 * view.turns.length + 2) token
        ⟨2 * view.turns.length + 2, .assistant, turn.2⟩ =
        ⟨2 * view.turns.length + 2, .assistant, turn.2 ++ token⟩ := if_pos rfl
    simp only [PageView.next, Chat.appendToken, hmessages]
    rw [hlast, hanswer, hturn, Option.map_some, Option.toList_some, transcript_concat]
  · simp only [PageView.next, hshows.answering, hturn, Option.map_some]

theorem streamEnded (hshows : ShowsView page view) {outcome : Except String Unit}
    (hstep : page.streamEnded outcome = some next) :
    view.Allows (.streamEnded outcome) ∧ ShowsView next (view.next (.streamEnded outcome)) := by
  obtain ⟨assistantId, hanswering, rfl⟩ := Option.map_eq_some_iff.mp hstep
  rw [hshows.answering] at hanswering
  obtain ⟨turn, hturn, rfl⟩ := Option.map_eq_some_iff.mp hanswering
  have hmessages := hshows.messages
  rw [hturn, Option.toList_some] at hmessages
  have hallowed : view.Allows (.streamEnded outcome) := by simp [PageView.Allows, hturn]
  cases outcome with
  | ok _ =>
      refine ⟨hallowed, { hshows with messages := ?_, answering := rfl }⟩
      simp only [PageView.next, hturn, Option.toList_some, Option.toList_none, List.append_nil]
      exact hmessages
  | error message =>
      refine ⟨hallowed, { hshows with messages := ?_, answering := rfl }⟩
      have hlast := transcript_map_last view.turns turn fun m hm =>
        Message.showError_of_ne hm message
      have hanswer : Message.showError (2 * view.turns.length + 2) message
          ⟨2 * view.turns.length + 2, .assistant, turn.2⟩ =
          ⟨2 * view.turns.length + 2, .assistant, s!"Error: {message}"⟩ := if_pos rfl
      simp only [PageView.next, Chat.showError, hmessages]
      rw [hlast, hanswer, hturn, Option.toList_some, Option.toList_none, List.append_nil,
        List.map_singleton, transcript_concat]

/-- What one step of the page does to its view. -/
theorem step (hshows : ShowsView page view) {label : PageLabel}
    (hstep : page.step label = some next) :
    view.Allows label ∧ ShowsView next (view.next label) := by
  cases label with
  | select name => exact hshows.select hstep
  | redistribute => exact hshows.redistribute hstep
  | type text => exact hshows.setInput hstep
  | send model input => exact hshows.send hstep
  | tick => exact hshows.tick hstep
  | actionSettled run => exact hshows.actionSettled hstep
  | statusSettled run result => exact hshows.statusSettled hstep
  | token token => exact hshows.onToken hstep
  | streamEnded outcome => exact hshows.streamEnded hstep

end ShowsView

/-- What a view never shows: a redistribution that is over, and a model as ready that has
not been reported so by its current run. -/
structure PageView.Sound (labels : List PageLabel) (view : PageView) : Prop where
  idle : view.current = none → view.selected = ""
  redistributing : view.redistributing = true → view.status.terminal = false
  reported : ∀ {run : Nat}, view.current = some run → view.status = .ready →
    ∃ status, .statusSettled run (.ok status) ∈ labels ∧ status.status = .ready

theorem PageView.Sound.begin {labels : List PageLabel} (view : PageView) :
    view.begin.Sound labels := by
  refine ⟨fun hcurrent => ?_, fun _ => rfl, fun _ hready => ?_⟩
  · cases hcurrent
  · cases hready

theorem PageView.Sound.mono {labels more : List PageLabel} {view : PageView}
    (hsound : view.Sound labels) : view.Sound (labels ++ more) := by
  refine ⟨hsound.idle, hsound.redistributing, fun hcurrent hready => ?_⟩
  obtain ⟨status, hmem, hstatus⟩ := hsound.reported hcurrent hready
  exact ⟨status, List.mem_append_left _ hmem, hstatus⟩

theorem PageView.Sound.next {labels : List PageLabel} {view : PageView}
    (hsound : view.Sound labels) (label : PageLabel) :
    (view.next label).Sound (labels ++ [label]) := by
  have hmono := @hsound.mono _ [label]
  cases label with
  | select name =>
      change (view.select name).Sound _
      unfold PageView.select
      split
      · next hname =>
          exact ⟨fun _ => hname, hsound.redistributing, fun hcurrent => by cases hcurrent⟩
      · exact .begin _
  | redistribute => exact .begin _
  | statusSettled run result =>
      change PageView.Sound _ (if view.current = some run then
        view.showStatus (PageView.reported result) else view)
      split
      · next hcurrent =>
          refine ⟨hsound.idle, fun hredistributing => ?_, fun {other} hother hready => ?_⟩
          · simp only [PageView.showStatus, Bool.and_eq_true, Bool.not_eq_true'] at hredistributing
            exact hredistributing.1
          · obtain rfl : run = other := Option.some.inj (hcurrent.symm.trans hother)
            cases result with
            | error message => cases hready
            | ok status => exact ⟨status, List.mem_append_right _ List.mem_cons_self, hready⟩
      · exact hmono
  | send model input => exact ⟨hmono.idle, hmono.redistributing, hmono.reported⟩
  | token token => exact ⟨hmono.idle, hmono.redistributing, hmono.reported⟩
  | streamEnded outcome =>
      cases outcome with
      | ok _ => exact ⟨hmono.idle, hmono.redistributing, hmono.reported⟩
      | error message => exact ⟨hmono.idle, hmono.redistributing, hmono.reported⟩
  | type text => exact hmono
  | tick => exact hmono
  | actionSettled run => exact hmono

theorem PageView.sound_after (labels : List PageLabel) :
    (PageView.after labels).Sound labels := by
  induction labels using List.reverseRecOn with
  | nil =>
      refine ⟨fun _ => rfl, fun hredistributing => ?_, fun hcurrent => ?_⟩
      · cases hredistributing
      · cases hcurrent
  | append_singleton labels label ih =>
      have hstep : PageView.after (labels ++ [label]) = (PageView.after labels).next label :=
        List.foldl_append
      rw [hstep]
      exact ih.next label

/-- The inference page under every order of clicks, timer ticks, replies and tokens: it shows
its view, in which only the calls of the selected model's current run count and the messages
are the transcript of the inputs and their answers. An input is sent only when nothing else is
being answered, and to a model that its current run has reported ready; a redistribution starts
only after the one before, and is shown as under way only as long as it is. -/
theorem inference_page {labels : List PageLabel} {page : InferencePage}
    (htrace : Trace (fun page label next => page.step label = some next) .initial labels page) :
    ShowsView page (PageView.after labels) ∧
    (page.redistributing = true → page.modelStatus.terminal = false) ∧
    (∀ before label later, labels = before ++ label :: later →
      (PageView.after before).Allows label) ∧
    ∀ before model input later, labels = before ++ .send model input :: later → model ≠ "" →
      ∃ run status, (PageView.after before).current = some run ∧
        .statusSettled run (.ok status) ∈ before ∧ status.status = .ready := by
  obtain ⟨hallowed, hshows⟩ : (∀ before label later, labels = before ++ label :: later →
      (PageView.after before).Allows label) ∧ ShowsView page (PageView.after labels) :=
    @Trace.tracks _ _ _ (fun page label next => page.step label = some next) PageView.next
      PageView.Allows ShowsView _ _ _ _ htrace showsView_initial fun _ _ _ _ hshows hstep =>
        hshows.step hstep
  refine ⟨hshows, fun hredistributing => ?_, hallowed, fun before model input later hlabels
    hname => ?_⟩
  · rw [hshows.redistributing] at hredistributing
    rw [hshows.status]
    exact (PageView.sound_after labels).redistributing hredistributing
  · obtain ⟨rfl, hready, _, _⟩ := hallowed before _ later hlabels
    have hsound := PageView.sound_after before
    cases hcurrent : (PageView.after before).current with
    | none => exact absurd (hsound.idle hcurrent) hname
    | some run =>
        obtain ⟨status, hmem, hstatus⟩ := hsound.reported hcurrent hready
        exact ⟨run, status, rfl, hmem, hstatus⟩

/-- Another model is selected before the first one has been loaded, and the reply that the
first one is ready comes late. -/
def lateReplyLabels : List PageLabel :=
  [.select "a", .select "m", .actionSettled 0, .statusSettled 0 (.ok ⟨.ready, none, some 1⟩),
    .actionSettled 1, .tick, .statusSettled 1 (.ok ⟨.loading, none, some 2⟩),
    .statusSettled 1 (.ok ⟨.ready, none, some 2⟩), .type "hi", .send "m" "hi", .token "he",
    .token "llo", .streamEnded (.ok ())]

theorem inference_page_late_reply :
    ∃ page, Trace (fun page label next => InferencePage.step page label = some next) .initial
        lateReplyLabels page ∧
      page.chat.messages = [⟨1, .user, "hi"⟩, ⟨2, .assistant, "hello"⟩] ∧
      (PageView.after (lateReplyLabels.take 4)).status = .loading ∧
      ∃ run status, (PageView.after (lateReplyLabels.take 9)).current = some run ∧
        .statusSettled run (.ok status) ∈ lateReplyLabels.take 9 ∧ status.status = .ready := by
  have htrace : ∃ page, Trace (fun page label next => InferencePage.step page label = some next)
      .initial lateReplyLabels page :=
    ⟨_, .snoc (.snoc (.snoc (.snoc (.snoc (.snoc (.snoc (.snoc (.snoc (.snoc (.snoc (.snoc
      (.snoc .nil rfl) rfl) rfl) rfl) rfl) rfl) rfl) rfl) rfl) rfl) rfl) rfl) rfl⟩
  obtain ⟨page, htrace⟩ := htrace
  obtain ⟨hshows, _, _, hsent⟩ := inference_page htrace
  exact ⟨page, htrace, hshows.messages, rfl,
    hsent (lateReplyLabels.take 9) "m" "hi" (lateReplyLabels.drop 10) rfl (by decide)⟩

end PiSSM.Pipeline
