import CecBench.Proofs.Adapter.Escalation

/-!
# What a stop on another machine clears away

A stop of an adapter on another machine may succeed or fail, for the command to quit is a line that may
not get through, and both the channel and the client may fail to close.  None of this keeps it from
clearing away.  It tells the program to quit at most once, then it closes the channel, and then the
client if there is one.  Behind it there is nothing left in hand (`stop_clears`), and so another stop has
nothing to do.
-/

namespace CecBench

open Timed (behind)
open Rig
open Connection (SameClients Closes)

variable {t u : Timeline Rig Happening} {id : ProgramId} {timeout : Int}

namespace Remote

/-- The call by which a program is told to quit, unless it has exited or its input is not in hand. -/
def dismissal (r : Rig) (id : ProgramId) : List Call :=
  if isTold r id then [.write Program.quitCommand] else []

/-- The calls by which the channel and the client are closed. -/
def closings (r : Rig) : List Call :=
  .closeChannel :: if r.holdings.client.isSome then [.disconnect] else []

theorem tell_makes (id : ProgramId) (t : Timeline Rig Happening) :
    Makes t (dismissal t.state id) (behind (tell id) t) := by
  rw [behind, tell_apply, dismissal]
  split
  · have hmade := writeTo_makes id (Program.quitCommand ++ "\n") t
    rwa [commandOf_quit] at hmade
  · exact .none rfl

theorem attend_makes_none (id : ProgramId) (timeout : Int) (t : Timeline Rig Happening) :
    Makes t [] (behind (attend id timeout) t) := by
  cases hmeasure : isMeasurable timeout with
  | false =>
    rw [behind, attend, Timed.measure_of_immeasurable hmeasure]
    exact .none rfl
  | true =>
    obtain ⟨u, hpoll, hmade⟩ := poll_succeeds id (polls timeout) t
    have hattend : attend id timeout t = .ok () u := by
      rw [attend, Timed.measure_of_measurable hmeasure]
      exact hpoll
    rw [Timed.behind_of_ok hattend]
    exact hmade

/-- However telling the program to quit and waiting for it end. -/
theorem quit_makes (id : ProgramId) (timeout : Int) (t : Timeline Rig Happening) :
    Makes t (dismissal t.state id) (behind (quit id timeout) t) := by
  have htold := tell_makes id t
  rw [quit_eq, behind]
  cases htell : tell id t with
  | error e u =>
    rw [Timed.behind_of_error htell] at htold
    rw [Timed.bind_of_error htell]
    exact htold
  | ok _ u =>
    rw [Timed.behind_of_ok htell] at htold
    rw [Timed.bind_of_ok htell, ← List.append_nil (dismissal t.state id)]
    exact htold.trans (attend_makes_none id timeout u)

theorem disconnect_makes (t : Timeline Rig Happening) :
    Makes t (if t.state.holdings.client.isSome then [.disconnect] else [])
      (behind Connection.disconnect t) := by
  cases hclient : t.state.holdings.client with
  | none =>
    rw [Timed.behind_of_ok (Connection.disconnect_of_none hclient)]
    exact .none rfl
  | some client =>
    rw [Timed.behind_of_ok (Connection.disconnect_of_some hclient)]
    rfl

theorem disconnect_streams (t : Timeline Rig Happening) :
    (behind Connection.disconnect t).state.holdings.hasStreams = t.state.holdings.hasStreams := by
  cases hclient : t.state.holdings.client with
  | none => rw [Timed.behind_of_ok (Connection.disconnect_of_none hclient)]
  | some client =>
    rw [Timed.behind_of_ok (Connection.disconnect_of_some hclient)]
    rfl

/-- The channel is closed, and then the client, whatever both end in. -/
theorem release_apply (id : ProgramId) (ho : t.Ordered) :
    ∃ u, release id t = .ok () u ∧ Makes t (closings t.state) u ∧
      u.state.holdings.hasStreams = false := by
  obtain ⟨v, hclose, hclosed⟩ := closeChannel_overlooked id t
  obtain ⟨_, hsame⟩ :=
    overlooking_keeps (P := SameClients) (fun _ => true) (closeChannel_keeps id) t ho
  rw [Timed.behind_of_ok hclose] at hsame
  let dropped : Timeline Rig Happening := { v with state.holdings.hasStreams := false }
  obtain ⟨_, w, hdisconnect, _⟩ := disconnect_succeeds dropped
  have hmade := disconnect_makes dropped
  have hstreams := disconnect_streams dropped
  rw [Timed.behind_of_ok hdisconnect] at hmade hstreams
  refine ⟨w, (Timed.bind_of_ok hclose).trans hdisconnect, ?_, hstreams⟩
  rw [closings, ← hsame.client]
  exact hclosed.trans hmade

/-- Whether the command to quit gets through or not, what is left to do is the same. -/
theorem behind_letGo (id : ProgramId) (timeout : Int) (t : Timeline Rig Happening) :
    behind (letGo id timeout) t = behind (release id) (behind (quit id timeout) t) := by
  obtain ⟨_, v, hrelease, _⟩ := release_succeeds none id (behind (quit id timeout) t)
  rw [Timed.behind_of_ok hrelease]
  cases hquit : quit id timeout t with
  | ok _ u =>
    rw [Timed.behind_of_ok hquit] at hrelease
    exact Timed.behind_of_ok (letGo_of_ok hquit hrelease)
  | error e u =>
    rw [Timed.behind_of_error hquit] at hrelease
    rw [behind, letGo_of_error hquit hrelease]
    cases e with
    | equipment e => cases hkind : e.kind.isChannel <;> simp only [hkind] <;> rfl
    | _ => rfl

end Remote

namespace Adapter

/-- A stop of an adapter that has a program on another machine clears everything away, whatever
fails on the way and however the stop ends.  It asks for nothing but this: the program is told to quit
once if it runs, then the channel is closed, and then the client that is held.  Behind that nothing is
in hand, and stopping again does nothing.  From then on the adapter rests. -/
theorem stop_clears (a : Adapter) {login : HostLogin} (hcarrier : a.carrier = .host login)
    (ho : t.Ordered) (hchannel : t.state.holdings.channel = some id) :
    let t' := behind a.stop t
    callsSince t t' = Remote.dismissal t.state id ++ Remote.closings t.state ∧
    (t'.state.holdings.channel = none ∧ t'.state.holdings.hasStreams = false ∧
      t'.state.holdings.client = none) ∧
    (∀ client, t.state.holdings.client = some client → ¬ t'.state.IsOpen client) ∧
    a.stop t' = .ok () t' ∧
    ∀ steps, (∀ step ∈ steps, step.IsNoStart) → a.Rests (a.run steps t') := by
  intro t'
  let free : Timeline Rig Happening := { t with state.holdings.channel := none }
  let told := behind (Remote.quit id a.settings.stopTimeout) free
  have hstop : t' = behind (Remote.release id) told := by
    have hletGo := Remote.behind_letGo id a.settings.stopTimeout free
    rw [← hletGo]
    simp only [t', behind, stop, hcarrier, Remote.stop_of_some _ hchannel, free]
  have hmade := Remote.quit_makes id a.settings.stopTimeout free
  obtain ⟨hordered, hsame⟩ :=
    Remote.quit_keeps (Q := SameClients) id a.settings.stopTimeout free (ho.withState _)
  obtain ⟨u, hrelease, hmore, hstreams⟩ := Remote.release_apply id hordered
  have ht' : t' = u := hstop.trans (Timed.behind_of_ok hrelease)
  have hcloses : Closes t t' := (a.stop_closes hcarrier t ho).2
  have hempty : t'.state.holdings.channel = none := by
    have hidle := a.stop_idle ho
    rwa [Idle, hcarrier] at hidle
  refine ⟨?_, ⟨hempty, ht' ▸ hstreams, hcloses.client⟩, ?_, ?_, fun steps => ?_⟩
  · have hall : Makes t (Remote.dismissal t.state id ++ Remote.closings told.state) u :=
      Makes.trans (t := t) hmade hmore
    rw [ht', hall.callsSince_eq, Remote.closings, hsame.client, Remote.closings]
  · intro client hclient
    rw [hcloses.isOpen_iff]
    exact fun h => h.2 hclient
  · rw [stop, hcarrier]
    exact (Remote.stop_of_none _ hempty).trans (Connection.disconnect_of_none hcloses.client)
  · exact stop_rests (by rw [hcarrier]; exact Carrier.noConfusion) ho

/-- The program runs and its input fails in a way that no channel does, and both the channel and the
client fail to close.  The stop fails, and everything is cleared away. -/
theorem stop_clears_of_failing_host :
    let a : Adapter := ⟨{}, Codec.usual, .host ⟨"pi", "user", "pw", 22, 30⟩⟩
    let t : Timeline Rig Happening :=
      { state.surroundings.scripts := [{ writeFailure := some .value }]
        state.surroundings.host :=
          { channelCloseFailure := some .other, disconnectFailure := some .other } }
    let u := a.run [.start (.named .playback1) (.text "1.0.0.0") ""] t
    let u' := behind a.stop u
    a.stop.succeeds u = false ∧ callsSince u u' = [.write "q", .closeChannel, .disconnect] ∧
      ¬ u'.state.IsOpen 0 ∧ a.stop u' = .ok () u' ∧ a.Rests (a.run [.connect "", .sleep 50] u') := by
  intro a t u u'
  have hu : u.Ordered := (a.run_keeps (T := Aged) _ (Timeline.ordered_idle 0 _)).1
  have hchannel : u.state.holdings.channel = some 0 := rfl
  have hclient : u.state.holdings.client = some 0 := rfl
  obtain ⟨hcalls, _, hclosed, hagain, hrest⟩ := stop_clears a rfl hu hchannel
  refine ⟨by decide +kernel, hcalls, hclosed 0 hclient, hagain, hrest _ ?_⟩
  simp [Step.IsNoStart]

end Adapter

end CecBench
