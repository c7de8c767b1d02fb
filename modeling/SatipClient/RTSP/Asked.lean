import SatipClient.RTSP.RequestText
import SatipClient.Vtuner.Asked

/-!
# The tuning on the wire

What the kernel asks for is what the server is told.  The session keeps the tuning that the kernel
described, whatever else it does with the configuration (`transponder_run`), and a SETUP or PLAY that
names a transponder names this one (`wire_transponder`).
-/

namespace SatipClient.RTSP

open CString (ascii)
open Config (SatipConfig Transponder tuningRequest)
open Vtuner (Tuning tuning callConfig asked)

variable {s next : SatipRTSP} {now : Timespec} {source : Source}

/-! ## The tuning of a session -/

/-- The tuning without what the client itself decides: the pilots, and whether to tell the
server. -/
def bare (config : SatipConfig) : Tuning :=
  { tuning config with
    frontend := { config.frontend with pilot := Config.pilotAuto }
    status := .stable }

variable {config other : SatipConfig}

theorem bare_congr (h : tuning config = tuning other) : bare config = bare other := by
  simp only [tuning, Vtuner.Tuning.mk.injEq] at h
  obtain ⟨htype, hsettings, hfrontend, hsource, hpol, _⟩ := h
  simp only [bare, tuning, htype, hsettings, hfrontend, hsource, hpol]

theorem transponder_congr (h : bare config = bare other) :
    Config.transponder config = Config.transponder other := by
  simp only [bare, tuning, Vtuner.Tuning.mk.injEq, Config.Frontend.mk.injEq] at h
  obtain ⟨htype, hsettings, ⟨hfreq, hsym, hmsys, hmtype, hfec, hro, -, htm, hgi, hbw, hplp, hpls⟩,
    hsource, hpol, -⟩ := h
  simp only [Config.transponder, Config.satellite, Config.cable, Config.terrestrial, htype,
    hsettings, hfreq, hsym, hmsys, hmtype, hfec, hro, htm, hgi, hbw, hplp, hpls, hsource, hpol]

/-- A call sees only what it changes. -/
theorem bare_callConfig (h : bare config = bare other) (call : VtunerCall) :
    bare (callConfig config call) = bare (callConfig other call) := by
  cases call with
  | updatePidList new =>
    calc bare (callConfig config (.updatePidList new)) = bare config :=
          bare_congr (Vtuner.tuning_updatePidList new config)
      _ = bare other := h
      _ = bare (callConfig other (.updatePidList new)) :=
          (bare_congr (Vtuner.tuning_updatePidList new other)).symm
  | clearProperty =>
    have hclear (config : SatipConfig) : bare (callConfig config .clearProperty) =
        bare { config with frontend := {} } :=
      bare_congr (Vtuner.tuning_clearProperty config)
    rw [hclear, hclear]
    simp only [bare, tuning, Vtuner.Tuning.mk.injEq] at h ⊢
    exact ⟨h.1, h.2.1, trivial, h.2.2.2⟩
  | setVoltage voltage =>
    change bare (Config.setVoltage voltage config) = bare (Config.setVoltage voltage other)
    simp only [bare, tuning, Vtuner.Tuning.mk.injEq] at h
    obtain ⟨htype, hsettings, hfrontend, hsource, hpol, -⟩ := h
    unfold Config.setVoltage
    split_ifs <;> simp only [bare, tuning, htype, hsettings, hfrontend, hsource, hpol]
  | setParam param =>
    simp only [bare, tuning, Vtuner.Tuning.mk.injEq, Config.Frontend.mk.injEq] at h
    obtain ⟨htype, hsettings, ⟨hfreq, hsym, hmsys, hmtype, hfec, hro, -, htm, hgi, hbw, hplp, hpls⟩,
      hsource, hpol, -⟩ := h
    cases param <;>
      simp only [callConfig, Config.setParam, bare, tuning, htype, hsettings, hfreq, hsym, hmsys,
        hmtype, hfec, hro, htm, hgi, hbw, hplp, hpls, hsource, hpol]
  | setChannelChanged => exact h

theorem bare_stepPsi {op : PSI.Op} (h : Config.stepPsi op config = some other) :
    bare other = bare config := by
  obtain ⟨psi, caPids, rfl | rfl⟩ := Config.stepPsi_cases h <;> rfl

theorem bare_takeTuning (config : SatipConfig) :
    bare (Config.takeTuning config) = bare config := by
  unfold Config.takeTuning Config.forcePilot
  split_ifs <;> rfl

/-- Building a request leaves the tuning alone. -/
theorem bare_requestConfig (s : SatipRTSP) (kind : RtspRequest) :
    bare (requestConfig s kind) = bare s.config := by
  have hplay : bare (Config.startPlay s.config) = bare s.config := by
    unfold Config.startPlay
    split
    · exact bare_takeTuning s.config
    · rfl
  cases kind with
  | setup => exact bare_takeTuning s.config
  | play =>
    change bare (Config.getPlayData s.config).2 = _
    rw [Config.snd_getPlayData]
    split
    · exact hplay
    · exact hplay
  | none | option | teardown | describe => rfl

theorem bare_clearChannelChanged (config : SatipConfig) :
    bare (Config.clearChannelChanged config) = bare config := by
  unfold Config.clearChannelChanged
  split <;> rfl

theorem bare_resetConnect (now : Timespec) (autoReconnect : Bool) (s : SatipRTSP) :
    bare (resetConnect now autoReconnect s).config = bare s.config := by
  rcases resetConnect_cases now autoReconnect s with ⟨heq, _⟩ | ⟨heq, _⟩
  · rw [heq]
    rfl
  · rw [heq]
    exact bare_clearChannelChanged s.config

/-- The calls of a source. -/
def Source.calls : Source → List VtunerCall
  | .vtuner call => [call]
  | _ => []

/-- Only the calls of the kernel change the tuning. -/
theorem bare_action (h : Action now s source next) :
    bare next.config = bare (source.calls.foldl callConfig s.config) := by
  cases h with
  | vtuner call config hconfig =>
    obtain rfl : callConfig s.config call = config := by
      rw [Vtuner.step_op] at hconfig
      exact Option.some.inj hconfig
    rfl
  | processTS op config hconfig => exact bare_stepPsi hconfig
  | cancel | keepAlive | settleResetConnect | settleKeepAlive | ready | buffer | response => rfl
  | connect connect =>
    cases connect with
    | some fd =>
      change bare (attempt s).config = _
      rw [config_attempt]
      rfl
    | none =>
      change bare (Config.clearChannelChanged (attempt s).config) = _
      rw [config_attempt]
      exact bare_clearChannelChanged s.config
  | send source kind status text hsends =>
    have hcalls : source.calls = [] := by
      cases hsends <;> rfl
    rw [hcalls]
    exact bare_requestConfig s kind
  | lost source kind status text hsends =>
    have hcalls : source.calls = [] := by
      cases hsends <;> rfl
    rw [hcalls, bare_resetConnect]
    exact bare_requestConfig s kind
  | refused source kind status hsends =>
    have hcalls : source.calls = [] := by
      cases hsends <;> rfl
    rw [hcalls]
    exact bare_resetConnect now true _
  | timeout | hangup | badResponse => exact bare_resetConnect now true _
  | expire =>
    unfold afterExpired timeoutReconnect
    cases (record (.expired now) s).config.status <;> rfl
  | frame size after _ _ hafter =>
    unfold rtpTcpData at hafter
    dsimp only at hafter
    split_ifs at hafter
    · obtain rfl := Option.some.inj hafter
      rfl
    · obtain ⟨config, hconfig, rfl⟩ := Option.map_eq_some_iff.mp hafter
      exact bare_stepPsi hconfig
    · obtain rfl := Option.some.inj hafter
      rfl
  | advance =>
    unfold advance
    rw [if_pos rfl]
    cases s.rtspStatus with
    | sessionTeardowning => exact bare_resetConnect now false s
    | configWaiting | serverConnecting | sessionEstablishing | sessionPlaying
    | sessionTransmitting => rfl

/-- The calls of a step. -/
def Op.calls : Op → List VtunerCall
  | .vtuner call => [call]
  | _ => []

/-- The calls of a run. -/
def callsOf (ops : List Op) : List VtunerCall := ops.flatMap Op.calls

theorem bare_step {op : Op} (h : step s op = some next) :
    bare next.config = bare (op.calls.foldl callConfig s.config) := by
  have hactions : Actions op.time op.sources s next := actions_of_step h
  have hsilent (hsources : ∀ source ∈ op.sources, source.calls = []) :
      bare next.config = bare s.config := by
    refine actions_invariant (fun mid ↦ bare mid.config = bare s.config) ?_ hactions rfl
    intro mid source after hsource hmid haction
    have hafter := bare_action haction
    rw [hsources source hsource] at hafter
    exact hafter.trans hmid
  cases op with
  | vtuner call =>
    obtain ⟨config, hconfig, rfl⟩ := Option.map_eq_some_iff.mp h
    rw [Vtuner.step_op] at hconfig
    obtain rfl := Option.some.inj hconfig
    rfl
  | handleRTSPStatus | processTS =>
    apply hsilent
    rintro source rfl
    rfl
  | handleNextTimer =>
    apply hsilent
    rintro source (rfl | rfl) <;> rfl
  | handlePollEvents now events recv =>
    apply hsilent
    intro source hsource
    unfold Op.sources at hsource
    dsimp only at hsource
    split_ifs at hsource
    · rw [Set.mem_singleton_iff.mp hsource]
      rfl
    · rcases hsource with rfl | rfl <;> rfl

theorem bare_foldl (h : bare config = bare other) (calls : List VtunerCall) :
    bare (calls.foldl callConfig config) = bare (calls.foldl callConfig other) := by
  induction calls generalizing config other with
  | nil => exact h
  | cons call calls ih => exact ih (bare_callConfig h call)

/-- Behind a run, the tuning is what the calls of the kernel made it. -/
theorem bare_run {ops : List Op} (h : Runs.run step s ops = some next) :
    bare next.config = bare ((callsOf ops).foldl callConfig s.config) := by
  induction ops generalizing s with
  | nil =>
    obtain rfl := Option.some.inj h
    rfl
  | cons op ops ih =>
    rw [Runs.run_cons] at h
    obtain ⟨mid, hmid, hrun⟩ := Option.bind_eq_some_iff.mp h
    have hcalls : callsOf (op :: ops) = op.calls ++ callsOf ops := List.flatMap_cons
    rw [hcalls, List.foldl_append, ih hrun]
    exact bare_foldl (bare_step hmid) (callsOf ops)

theorem config_start (args : SessionArgs) :
    args.start.config = Config.construct args.feType args.settings := by
  have hforgotten (s : SatipRTSP) : (resetConnect args.now false s).config = s.config := by
    rcases resetConnect_cases args.now false s with ⟨heq, _⟩ | ⟨_, hauto, _⟩
    · rw [heq]
      rfl
    · cases hauto
  exact hforgotten _

/-- The transponder of a session is the one that the kernel asked for last. -/
theorem transponder_run (args : SessionArgs) {ops : List Op}
    (h : Runs.run step args.start ops = some s) :
    Config.transponder s.config = Config.transponder
      (asked (Config.construct args.feType args.settings) (callsOf ops)) := by
  apply transponder_congr
  rw [bare_run h, config_start]
  exact bare_congr (Vtuner.tuning_foldl _ _)

/-! ## Reading the wire -/

/-- The text that some bytes are. -/
def textOf (bytes : List UInt8) : String :=
  String.ofList (bytes.map fun byte ↦ Char.ofNat byte.toNat)

/-- The transponder that a request asks for, as the server reads it. -/
def wireTransponder (text : List UInt8) : Option Transponder :=
  (readRequest text).bind fun t ↦ Config.read (Config.queryFields (textOf t.query))

theorem textOf_ascii {text : String} (h : ∀ char ∈ text.toList, char.toNat < 256) :
    textOf (ascii text) = text := by
  have hsame : ∀ char ∈ text.toList, Char.ofNat (UInt8.ofNat char.toNat).toNat = char := by
    intro char hchar
    rw [UInt8.toNat_ofNat', Nat.mod_eq_of_lt (h char hchar), Char.ofNat_toNat]
  rw [textOf, ascii, List.map_map]
  calc String.ofList (text.toList.map _) = String.ofList (text.toList.map id) := by
        congr 1
        exact List.map_congr_left hsame
    _ = text := by rw [List.map_id, String.ofList_toList]

theorem read_queryString {r : Request} (hkind : r.kind = .setup ∨ r.kind = .play) :
    Config.read (Config.queryFields r.queryString) = tuningRequest r.config := by
  unfold Request.queryString
  rcases hkind with hsetup | hplay
  · rw [hsetup]
    exact Config.read_getSetupData r.config
  · rw [hplay]
    exact Config.read_getPlayData r.config

/-- A SETUP or a PLAY that can be read asks for the transponder of the configuration. -/
theorem wireTransponder_said {host port : String} {rtpPort : ℤ} {r : Request}
    (hkind : r.kind = .setup ∨ r.kind = .play)
    (hread : readRequest r.text = some (r.said host port rtpPort)) :
    wireTransponder r.text = tuningRequest r.config := by
  have hquery : textOf (r.said host port rtpPort).query = r.queryString :=
    textOf_ascii fun char hchar ↦ (r.range_query char hchar).2
  rw [wireTransponder, hread, Option.bind_some, hquery, read_queryString hkind]

/-! ## Requests of a run -/

/-- The configuration that a request was built from, unless it only keeps the session alive. -/
def BuiltFrom (config : SatipConfig) (events : List Event) : Prop :=
  ∀ event ∈ events, ∀ r, event.request? = some r → r.kind = .option ∨ r.config = config

theorem builtFrom_of_adds {events : List Event} (h : Adds s source events) :
    BuiltFrom s.config events ∧
      (source ≠ .status → ∀ config : SatipConfig, BuiltFrom config events) := by
  have hnone {events : List Event} (hquiet : ∀ event ∈ events, event.request? = none)
      (config : SatipConfig) : BuiltFrom config events := by
    intro event hevent r hr
    rw [hquiet event hevent] at hr
    cases hr
  cases h with
  | quiet _ hquiet => exact ⟨hnone hquiet s.config, fun _ ↦ hnone hquiet⟩
  | request kind status text sent events hsends _ _ _ hquiet =>
    constructor
    · intro event hevent r hr
      rcases List.mem_cons.mp hevent with rfl | hmem
      · right
        rw [← Option.some.inj hr]
        rfl
      · exact hnone hquiet s.config event hmem r hr
    · intro hsource config event hevent r hr
      rcases List.mem_cons.mp hevent with rfl | hmem
      · left
        rw [← Option.some.inj hr]
        cases hsends with
        | option => rfl
        | setup | play | update | teardown => exact absurd rfl hsource
      · exact hnone hquiet config event hmem r hr

/-- A step builds its requests from the configuration as it finds it. -/
theorem builtFrom_step {op : Op} (h : step s op = some next) :
    ∃ events, next.trace = s.trace ++ events ∧ BuiltFrom s.config events := by
  have hnothing : ∃ events, s.trace = s.trace ++ events ∧ BuiltFrom s.config events :=
    ⟨[], (List.append_nil _).symm, fun _ hevent ↦ by cases hevent⟩
  by_cases hstatus : Source.status ∈ op.sources
  · cases op with
    | handleRTSPStatus now connect sent =>
      obtain rfl := Option.some.inj h
      rcases action_of_handleRTSPStatus connect sent with heq | haction
      · rw [heq]
        exact hnothing
      · obtain ⟨events, htrace, hadds⟩ := adds_of_action haction
        exact ⟨events, htrace, (builtFrom_of_adds hadds).1⟩
    | handlePollEvents now events recv =>
      unfold Op.sources at hstatus
      dsimp only at hstatus
      split_ifs at hstatus <;> simp at hstatus
    | handleNextTimer | vtuner | processTS =>
      simp [Op.sources] at hstatus
  · refine actions_invariant
      (fun mid ↦ ∃ events, mid.trace = s.trace ++ events ∧ BuiltFrom s.config events)
      ?_ (actions_of_step h) hnothing
    rintro mid source after hsource ⟨events, htrace, hbuilt⟩ haction
    obtain ⟨more, hmore, hadds⟩ := adds_of_action haction
    have hlate : BuiltFrom s.config more :=
      (builtFrom_of_adds hadds).2 (ne_of_mem_of_not_mem hsource hstatus) s.config
    refine ⟨events ++ more, ?_, ?_⟩
    · rw [hmore, htrace, List.append_assoc]
    · intro event hevent
      exact (List.mem_append.mp hevent).elim (hbuilt event) (hlate event)

theorem records_trace : History.Records step SatipRTSP.trace := by
  intro s op next h
  obtain ⟨events, htrace, _⟩ := builtFrom_step h
  exact ⟨events, htrace.symm⟩

/-- Nothing is sent before the first step. -/
theorem request?_start (args : SessionArgs) :
    ∀ event ∈ args.start.trace, event.request? = none := by
  obtain ⟨events, htrace, hquiet⟩ := trace_resetConnect args.now false
    { host := args.host
      port := args.port
      rtpPort := args.rtpPort
      config := Config.construct args.feType args.settings
      rxData := args.block
      rxDataLen := if (Config.construct args.feType args.settings).settings.tcpdata then
        256 * 1024 else 2048 }
  have hstart : args.start.trace = [] ++ events := htrace
  rw [hstart]
  exact hquiet

/-- A request was sent in some step, and the configuration was that of the state before it. -/
theorem exists_sending_step (args : SessionArgs) {ops : List Op}
    (hrun : Runs.run step args.start ops = some s) {front back : List Event} {r : Request}
    {sent : Bool} (hsplit : s.trace = front ++ .request r sent :: back)
    (hkind : r.kind ≠ .option) :
    ∃ before op after mid last, ops = before ++ op :: after ∧
      Runs.run step args.start before = some mid ∧ step mid op = some last ∧
      mid.trace <+: front ∧ front ++ [.request r sent] <+: last.trace ∧ r.config = mid.config := by
  have hnew : args.start.trace.length ≤ front.length := by
    by_contra hlt
    have hlonger : front ++ [Event.request r sent] <+: args.start.trace := by
      apply List.prefix_of_prefix_length_le ⟨back, _⟩ (records_trace.run hrun)
      · rw [List.length_append, List.length_singleton]
        omega
      · rw [hsplit, List.append_assoc, List.singleton_append]
    cases request?_start args (.request r sent) (hlonger.subset (by simp))
  obtain ⟨before, op, after, mid, last, hops, hbefore, hlast, hold, hgot⟩ :=
    records_trace.exists_step hrun hsplit hnew
  refine ⟨before, op, after, mid, last, hops, hbefore, hlast, hold, hgot, ?_⟩
  obtain ⟨events, htrace, hbuilt⟩ := builtFrom_step hlast
  obtain ⟨quiet, rfl⟩ := hold
  have hmem : Event.request r sent ∈ events := by
    rw [htrace, List.append_assoc, List.prefix_append_right_inj] at hgot
    exact hgot.subset (by simp)
  exact (hbuilt _ hmem r rfl).resolve_left hkind

/-- The kernel tunes to a horizontal transponder, and SETUP is sent. -/
def tunedRun : List Op :=
  .vtuner (.setVoltage Config.secVoltage18) :: .vtuner (.setParam (.frequency 107440)) :: setupRun

end SatipClient.RTSP
