import SatipClient.PSI.Consistency

/-!
# Receiving sections

What the parser does between two calls of `reset` or `setJoinedPids` is to receive sections.
`Receives` says that buffers with TS packets take it from one state to another and which sections
they handed over on the way, whatever else was in the packets.  The rule `Receives.invariant`
reduces a property of such a run to what a single section does to it.
-/

namespace SatipClient.PSI

/-- What every packet keeps, a buffer of packets keeps, and the assemblers stay in order. -/
theorem processTS_rule {motive : SatipPSI → Prop} {s next : SatipPSI} (hs : AssemblersOk s)
    (hpacket : ∀ p t t', p.length = tsPacketSize → AssemblersOk t → motive t →
      processPacket p t = some t' → motive t')
    (hmotive : motive s) {data : List UInt8} (h : processTS data s = some next) :
    AssemblersOk next ∧ motive next := by
  have hboth : ∀ p t t', p.length = tsPacketSize → (AssemblersOk t ∧ motive t) →
      processPacket p t = some t' → AssemblersOk t' ∧ motive t' := by
    intro p t t' hp ht ht'
    obtain ⟨u, hu, hassemblers⟩ := exists_processPacket hp ht.1
    obtain rfl := Option.some.inj (ht'.symm.trans hu)
    exact ⟨hassemblers, hpacket p t t' hp ht.1 ht.2 ht'⟩
  exact processTS_invariant hboth ⟨hs, hmotive⟩ h

/-- Buffers with TS packets take the parser from one state to the other, and these are the
sections they hand over. -/
def Receives (s : SatipPSI) (received : List (ℕ × List UInt8)) (next : SatipPSI) : Prop :=
  ∃ buffers : List (List UInt8), Runs.run step s (buffers.map .processTS) = some next ∧
    handed next.trace = handed s.trace ++ received

theorem Reachable.run {s next : SatipPSI} (hs : Reachable s) {ops : List Op}
    (h : Runs.run PSI.step s ops = some next) : Reachable next := by
  obtain ⟨hasCfg, emmEnabled, caidFilter, hreach⟩ := hs
  exact ⟨hasCfg, emmEnabled, caidFilter, hreach.run h⟩

theorem Receives.reachable {s next : SatipPSI} {received : List (ℕ × List UInt8)}
    (hs : Reachable s) (h : Receives s received next) : Reachable next := by
  obtain ⟨buffers, hrun, -⟩ := h
  exact hs.run hrun

theorem Receives.trans {s mid next : SatipPSI} {first second : List (ℕ × List UInt8)}
    (hfirst : Receives s first mid) (hsecond : Receives mid second next) :
    Receives s (first ++ second) next := by
  obtain ⟨front, hfront, hmid⟩ := hfirst
  obtain ⟨back, hback, hnext⟩ := hsecond
  refine ⟨front ++ back, ?_, by rw [hnext, hmid, List.append_assoc]⟩
  rw [List.map_append, Runs.run_append, hfront, Option.bind_some, hback]

/-- What was recorded since. -/
def newEvents (s next : SatipPSI) : List Event := next.trace.drop s.trace.length

theorem Reachable.step {s next : SatipPSI} (hs : Reachable s) (op : Op)
    (h : PSI.step s op = some next) : Reachable next := by
  obtain ⟨hasCfg, emmEnabled, caidFilter, hreach⟩ := hs
  exact ⟨hasCfg, emmEnabled, caidFilter, hreach.trans (Runs.Reachable.single h)⟩

/-- What `Receives.invariant` asks of a property of the parser and of the sections it received:
every admissible section of a watched pid keeps it, and so does `settle`. -/
structure SectionInvariant (Ok : Event → Prop)
    (Inv : List (ℕ × List UInt8) → SatipPSI → Prop) : Prop where
  frame : ∀ received s assembler tsPackets, Inv received s →
    Inv received { s with assembler := assembler, tsPackets := tsPackets }
  handleSection : ∀ received s pid sec next, Inv received s → pid ∈ s.watchedPids →
    Ok (.handleSection s.tables pid sec) → handleSection pid sec s = some next →
      Inv (received ++ [(pid, sec)]) next
  settle : ∀ received s, Inv received s → Inv received (settle s)

variable {Ok : Event → Prop} {Inv : List (ℕ × List UInt8) → SatipPSI → Prop}

/-- The property holds unless a section was handed over that is not admissible. -/
def HoldsSince (start : SatipPSI) (Ok : Event → Prop)
    (Inv : List (ℕ × List UInt8) → SatipPSI → Prop) (s : SatipPSI) : Prop :=
  ∃ events, s.trace = start.trace ++ events ∧
    ((∀ event ∈ events, Ok event) → Inv (handed events) s)

variable {start s next : SatipPSI} {pid : ℕ} {sec : List UInt8}
  {received : List (ℕ × List UInt8)}

theorem HoldsSince.handleSection (hInv : SectionInvariant Ok Inv) (hs : HoldsSince start Ok Inv s)
    (hwatch : pid ∈ s.watchedPids) (h : handleSection pid sec s = some next) :
    HoldsSince start Ok Inv next := by
  obtain ⟨events, htrace, hholds⟩ := hs
  have htracenext : next.trace = start.trace ++ (events ++ [.handleSection s.tables pid sec]) := by
    obtain ⟨tables, -, rfl⟩ := exists_tables_of_handleSection h
    rw [← List.append_assoc, ← htrace]
  refine ⟨_, htracenext, fun hok ↦ ?_⟩
  have hbefore : Inv (handed events) s :=
    hholds fun event hmem ↦ hok event (List.mem_append_left _ hmem)
  rw [handed_append]
  exact hInv.handleSection _ s pid sec next hbefore hwatch (hok _ (by simp)) h

theorem HoldsSince.handleAll (hInv : SectionInvariant Ok Inv) (hs : HoldsSince start Ok Inv s)
    (hwatch : pid ∈ s.watchedPids) {secs : List (List UInt8)}
    (h : handleAll pid secs s = some next) : HoldsSince start Ok Inv next := by
  have hboth : HoldsSince start Ok Inv next ∧ pid ∈ next.watchedPids := by
    refine handleAll_rule (motive := fun mid ↦
      HoldsSince start Ok Inv mid ∧ pid ∈ mid.watchedPids) ?_ ⟨hs, hwatch⟩ h
    rintro mid sec after ⟨hmid, hwatchmid⟩ hafter
    refine ⟨hmid.handleSection hInv hwatchmid hafter, ?_⟩
    obtain ⟨tables, -, rfl⟩ := exists_tables_of_handleSection hafter
    exact hwatchmid
  exact hboth.1

theorem HoldsSince.settle (hInv : SectionInvariant Ok Inv) (hs : HoldsSince start Ok Inv s) :
    HoldsSince start Ok Inv (settle s) := by
  obtain ⟨events, htrace, hholds⟩ := hs
  obtain ⟨more, hmore⟩ := prefix_settle s
  have hsame : handed (events ++ more) = handed events := by
    have hhanded := handed_settle s
    rw [← hmore, handed_append, List.append_right_eq_self] at hhanded
    rw [handed_append, hhanded, List.append_nil]
  refine ⟨events ++ more, by rw [← hmore, htrace, List.append_assoc], fun hok ↦ ?_⟩
  rw [hsame]
  exact hInv.settle _ s (hholds fun event hmem ↦ hok event (List.mem_append_left _ hmem))

theorem HoldsSince.processPacket (hInv : SectionInvariant Ok Inv)
    (hs : HoldsSince start Ok Inv s) (hassemblers : AssemblersOk s) {p : List UInt8}
    (hp : p.length = tsPacketSize) (h : processPacket p s = some next) :
    HoldsSince start Ok Inv next := by
  have hcount : HoldsSince start Ok Inv (countPacket s) := by
    obtain ⟨events, htrace, hholds⟩ := hs
    exact ⟨events, htrace, fun hok ↦ hInv.frame _ s _ _ (hholds hok)⟩
  rcases processPacket_cases hp hassemblers h with rfl |
    ⟨pid, secs, data, mid, hwatch, -, hmid, rfl⟩
  · exact hcount
  · have hkeep : HoldsSince start Ok Inv (keepPending pid data mid) := by
      obtain ⟨events, htrace, hholds⟩ := hcount.handleAll hInv hwatch hmid
      exact ⟨events, htrace, fun hok ↦ hInv.frame _ mid _ _ (hholds hok)⟩
    exact hkeep.settle hInv

theorem Receives.holdsSince (hInv : SectionInvariant Ok Inv) (hs : Reachable s)
    (h : Receives s received next) (hstart : Inv [] s) : HoldsSince s Ok Inv next := by
  obtain ⟨buffers, hrun, -⟩ := h
  have hstep : ∀ t op t', (AssemblersOk t ∧ HoldsSince s Ok Inv t) →
      (∃ data, op = Op.processTS data) → step t op = some t' →
        AssemblersOk t' ∧ HoldsSince s Ok Inv t' := by
    rintro t _ t' ⟨hassemblers, ht⟩ ⟨data, rfl⟩ hnext
    exact processTS_rule hassemblers
      (fun p u u' hp hok hu hu' ↦ hu.processPacket hInv hok hp hu') ht hnext
  have hbuffers : Runs.EachStep step (fun _ op ↦ ∃ data, op = Op.processTS data) s
      (buffers.map Op.processTS) := by
    apply Runs.eachStep_of_forall_mem
    intro op hop _
    obtain ⟨data, -, rfl⟩ := List.mem_map.mp hop
    exact ⟨data, rfl⟩
  have hstarts : HoldsSince s Ok Inv s := ⟨[], (List.append_nil _).symm, fun _ ↦ hstart⟩
  exact (Runs.run_invariant hstep ⟨hs.assemblersOk, hstarts⟩ hbuffers hrun).2

/-- The events since are the sections received and what was reported. -/
theorem Receives.newEvents_spec (hs : Reachable s) (h : Receives s received next) :
    next.trace = s.trace ++ newEvents s next ∧ handed (newEvents s next) = received := by
  have htrivial : SectionInvariant (fun _ ↦ True) fun _ _ ↦ True :=
    ⟨fun _ _ _ _ _ ↦ trivial, fun _ _ _ _ _ _ _ _ _ ↦ trivial, fun _ _ _ ↦ trivial⟩
  obtain ⟨events, htrace, -⟩ := h.holdsSince htrivial hs trivial
  have hevents : newEvents s next = events := by rw [newEvents, htrace, List.drop_left]
  obtain ⟨-, -, hhanded⟩ := h
  refine ⟨by rw [hevents, htrace], ?_⟩
  rw [htrace, handed_append] at hhanded
  rw [hevents, List.append_cancel_left hhanded]

/-- The rule for received sections. -/
theorem Receives.invariant (hInv : SectionInvariant Ok Inv) (hs : Reachable s)
    (h : Receives s received next) (hok : ∀ event ∈ newEvents s next, Ok event)
    (hstart : Inv [] s) : Inv received next := by
  obtain ⟨hspec, hhanded⟩ := h.newEvents_spec hs
  obtain ⟨events, htrace, hholds⟩ := h.holdsSince hInv hs hstart
  obtain rfl := List.append_cancel_left (hspec.symm.trans htrace)
  rw [← hhanded]
  exact hholds hok

/-- A section that was handed over is one of these. -/
def Event.From (sections : Set (ℕ × List UInt8)) : Event → Prop
  | .handleSection _ pid sec => (pid, sec) ∈ sections
  | .setCaPids _ => True

theorem Receives.from {sections : Set (ℕ × List UInt8)} (hs : Reachable s)
    (h : Receives s received next) (hsections : ∀ x ∈ received, x ∈ sections) :
    ∀ event ∈ newEvents s next, event.From sections := by
  intro event hevent
  cases event with
  | handleSection before pid sec =>
    apply hsections
    rw [← (h.newEvents_spec hs).2]
    exact List.mem_filterMap.mpr ⟨_, hevent, rfl⟩
  | setCaPids pids => trivial

theorem newEvents_append {mid : SatipPSI} {first second : List (ℕ × List UInt8)}
    (hs : Reachable s) (hfirst : Receives s first mid) (hsecond : Receives mid second next) :
    newEvents s next = newEvents s mid ++ newEvents mid next := by
  obtain ⟨hmid, -⟩ := hfirst.newEvents_spec hs
  obtain ⟨hnext, -⟩ := hsecond.newEvents_spec (hfirst.reachable hs)
  calc
    newEvents s next =
        (s.trace ++ (newEvents s mid ++ newEvents mid next)).drop s.trace.length := by
      rw [newEvents, hnext, hmid, List.append_assoc]
    _ = newEvents s mid ++ newEvents mid next := List.drop_left

/-! ## Every reachable parser -/

/-- What the operations keep, with a packet of a watched pid taken apart, holds of every reachable
parser. -/
theorem Reachable.packet_invariant {motive : SatipPSI → Prop} (hs : Reachable s)
    (hconstruct : ∀ hasCfg emmEnabled caidFilter, motive (construct hasCfg emmEnabled caidFilter))
    (hreset : ∀ s, motive s → motive (reset s))
    (hjoin : ∀ s pids, motive s → motive (setJoinedPids pids s))
    (hcount : ∀ s, motive s → motive (countPacket s))
    (hsections : ∀ s pid secs data mid, motive s → pid ∈ s.watchedPids →
      (∀ sec ∈ secs, IsSection sec) → handleAll pid secs s = some mid →
        motive (settle (keepPending pid data mid))) : motive s := by
  obtain ⟨hasCfg, emmEnabled, caidFilter, hreach⟩ := hs
  have hpacket : ∀ p t t', p.length = tsPacketSize → AssemblersOk t → motive t →
      processPacket p t = some t' → motive t' := by
    intro p t t' hp hassemblers ht ht'
    rcases processPacket_cases hp hassemblers ht' with rfl |
      ⟨pid, secs, data, mid, hwatch, hsecs, hmid, rfl⟩
    · exact hcount t ht
    · exact hsections _ pid secs data mid (hcount t ht) hwatch hsecs hmid
  have hstep : ∀ t op t', (AssemblersOk t ∧ motive t) → PSI.step t op = some t' →
      AssemblersOk t' ∧ motive t' := by
    intro t op t' ht h
    cases op with
    | reset =>
      obtain rfl := Option.some.inj h
      exact ⟨assemblersOk_reset t, hreset t ht.2⟩
    | setJoinedPids pids =>
      obtain rfl := Option.some.inj h
      exact ⟨ht.1.setJoinedPids pids, hjoin t pids ht.2⟩
    | processTS data => exact processTS_rule ht.1 hpacket ht.2 h
  exact (hreach.invariant hstep ⟨assemblersOk_construct hasCfg emmEnabled caidFilter,
    hconstruct hasCfg emmEnabled caidFilter⟩).2

/-- The same for what needs no more of a packet than the sections it hands over. -/
theorem Reachable.invariant {motive : SatipPSI → Prop} (hs : Reachable s)
    (hconstruct : ∀ hasCfg emmEnabled caidFilter, motive (construct hasCfg emmEnabled caidFilter))
    (hreset : ∀ s, motive s → motive (reset s))
    (hjoin : ∀ s pids, motive s → motive (setJoinedPids pids s))
    (hcount : ∀ s, motive s → motive (countPacket s))
    (hsections : ∀ s pid secs data mid, motive s → handleAll pid secs s = some mid →
      motive (settle (keepPending pid data mid))) : motive s := by
  apply hs.packet_invariant hconstruct hreset hjoin hcount
  intro s pid secs data mid hmotive _ _ hmid
  exact hsections s pid secs data mid hmotive hmid

@[simp]
theorem tables_setJoinedPids (pids : Finset ℕ) (s : SatipPSI) :
    (setJoinedPids pids s).tables = { s.tables with joinedPids := pids } := by
  unfold setJoinedPids
  split
  · exact recompute_tables _
  · rename_i hsame
    rw [not_not.mp hsame]

@[simp]
theorem tables_settle (s : SatipPSI) :
    (settle s).tables = { s.tables with dirty := false } := by
  unfold settle
  split
  · exact recompute_tables _
  · rename_i hdirty
    rw [← Bool.eq_false_of_not_eq_true hdirty]

theorem settle_of_not_dirty (h : s.tables.dirty = false) : settle s = s := by
  unfold settle
  rw [if_neg (by simp [h])]

/-- Between two packets nothing is due. -/
theorem Reachable.not_dirty (hs : Reachable s) : s.tables.dirty = false := by
  refine hs.invariant (motive := fun s ↦ s.tables.dirty = false) ?_ ?_ ?_ ?_ ?_
  · intro hasCfg emmEnabled caidFilter
    simp [construct, reset, clearState]
  · intro s _
    simp [reset, clearState]
  · intro s pids h
    rw [tables_setJoinedPids]
    exact h
  · intro s h
    exact h
  · intro s pid secs data mid _ _
    rw [tables_settle]

/-! ## The set last reported -/

/-- The set that `satipConfig` was told last, empty before the first report. -/
def lastReport (trace : List Event) : Finset ℕ := (reports trace).getLast?.getD ∅

/-- `m_derived_pids` is what was reported last. -/
def Reported (s : SatipPSI) : Prop := s.hasCfg = true → lastReport s.trace = s.derivedPids

theorem hasCfg_settle (s : SatipPSI) : (settle s).hasCfg = s.hasCfg := by
  unfold settle
  split
  · exact recompute_hasCfg _
  · rfl

theorem derivedPids_settle (s : SatipPSI) :
    (settle s).derivedPids = if s.tables.dirty then s.tables.caPids else s.derivedPids := by
  unfold settle
  split
  · exact recompute_derivedPids _
  · rfl

/-- The derived set is reported when it changes. -/
theorem reports_recompute (s : SatipPSI) :
    reports (recompute s).trace = reports s.trace ++
      if s.tables.caPids ≠ s.derivedPids ∧ s.hasCfg then [s.tables.caPids] else [] := by
  rw [recompute_trace, reports_append]
  split <;> rfl

theorem reports_settle (s : SatipPSI) :
    reports (settle s).trace = reports s.trace ++
      if s.tables.dirty ∧ s.tables.caPids ≠ s.derivedPids ∧ s.hasCfg then [s.tables.caPids]
        else [] := by
  unfold settle
  split
  case isTrue hdirty =>
    rw [reports_recompute]
    simp only [hdirty, true_and]
    rfl
  case isFalse hclean => simp [hclean]

theorem reports_of_handleAll {pid : ℕ} {secs : List (List UInt8)} {s next : SatipPSI}
    (h : handleAll pid secs s = some next) : reports next.trace = reports s.trace := by
  refine handleAll_rule (motive := fun mid ↦ reports mid.trace = reports s.trace) ?_ rfl h
  intro mid sec after hmid hafter
  obtain ⟨tables, -, rfl⟩ := exists_tables_of_handleSection hafter
  rw [← hmid, reports_append]
  exact List.append_nil _

/-- The rule for what is said of the derived set and its reports alone: a new set is reported,
unless there is no `satipConfig`. -/
theorem Reachable.reporting {motive : Bool → Finset ℕ → List (Finset ℕ) → Prop} {s : SatipPSI}
    (hs : Reachable s) (hstart : ∀ hasCfg, motive hasCfg ∅ [])
    (hreport : ∀ hasCfg derived reported new, motive hasCfg derived reported →
      motive hasCfg new (reported ++ if new ≠ derived ∧ hasCfg then [new] else [])) :
    motive s.hasCfg s.derivedPids (reports s.trace) := by
  have hrecompute : ∀ t : SatipPSI, motive t.hasCfg t.derivedPids (reports t.trace) →
      motive (recompute t).hasCfg (recompute t).derivedPids (reports (recompute t).trace) := by
    intro t ht
    rw [recompute_hasCfg, recompute_derivedPids, reports_recompute]
    exact hreport _ _ _ _ ht
  refine hs.invariant (motive := fun s ↦ motive s.hasCfg s.derivedPids (reports s.trace))
    ?_ ?_ ?_ ?_ ?_
  · intro hasCfg emmEnabled caidFilter
    exact hrecompute _ (hstart hasCfg)
  · intro t ht
    exact hrecompute _ ht
  · intro t pids ht
    unfold setJoinedPids
    split
    · exact hrecompute { t with tables := { t.tables with joinedPids := pids } } ht
    · exact ht
  · intro t ht
    exact ht
  · intro t pid secs data mid ht hmid
    have hframe := handleAll_frame hmid
    have hkept : motive mid.hasCfg mid.derivedPids (reports mid.trace) := by
      rw [reports_of_handleAll hmid, hframe]
      exact ht
    unfold settle
    split
    · exact hrecompute { keepPending pid data mid with
        tables := { (keepPending pid data mid).tables with dirty := false } } hkept
    · exact hkept

theorem Reachable.reported {s : SatipPSI} (hs : Reachable s) : Reported s := by
  refine hs.reporting (motive := fun hasCfg derived reported ↦
    hasCfg = true → reported.getLast?.getD ∅ = derived) (fun _ _ ↦ rfl) ?_
  intro hasCfg derived reported new hlast hcfg
  by_cases hsame : new = derived
  · rw [if_neg (fun hnew ↦ hnew.1 hsame), List.append_nil, hsame]
    exact hlast hcfg
  · rw [if_pos ⟨hsame, hcfg⟩]
    simp

/-- Without a `satipConfig` nothing is reported. -/
theorem Reachable.reports_eq_nil {s : SatipPSI} (hs : Reachable s) (hcfg : s.hasCfg = false) :
    reports s.trace = [] := by
  refine hs.reporting (motive := fun hasCfg _ reported ↦ hasCfg = false → reported = [])
    (fun _ _ ↦ rfl) ?_ hcfg
  intro hasCfg derived reported new hnone hcfg
  rw [hnone hcfg, List.nil_append, if_neg (fun hnew ↦ by simp [hcfg] at hnew)]

theorem prefix_setJoinedPids (pids : Finset ℕ) (s : SatipPSI) :
    s.trace <+: (setJoinedPids pids s).trace := by
  unfold setJoinedPids
  split
  · exact prefix_recompute { s with tables := { s.tables with joinedPids := pids } }
  · exact List.prefix_rfl

theorem hasCfg_setJoinedPids (pids : Finset ℕ) (s : SatipPSI) :
    (setJoinedPids pids s).hasCfg = s.hasCfg := by
  unfold setJoinedPids
  split
  · exact recompute_hasCfg _
  · rfl

theorem tables_reset (s : SatipPSI) :
    (reset s).tables = { (clearState s).tables with joinedPids := ∅ } := recompute_tables _

theorem hasCfg_reset (s : SatipPSI) : (reset s).hasCfg = s.hasCfg := recompute_hasCfg _

theorem prefix_reset (s : SatipPSI) : s.trace <+: (reset s).trace :=
  prefix_recompute { clearState s with tables := { (clearState s).tables with joinedPids := ∅ } }

/-! ## What packets leave alone -/

/-- The settings and the joined pids are the same, and more has been recorded. -/
structure Follows (s next : SatipPSI) : Prop where
  hasCfg : next.hasCfg = s.hasCfg
  emmEnabled : next.tables.emmEnabled = s.tables.emmEnabled
  caidFilter : next.tables.caidFilter = s.tables.caidFilter
  joinedPids : next.tables.joinedPids = s.tables.joinedPids
  trace : s.trace <+: next.trace

theorem Follows.refl (s : SatipPSI) : Follows s s := ⟨rfl, rfl, rfl, rfl, List.prefix_rfl⟩

theorem Follows.trans {mid : SatipPSI} (hfront : Follows s mid) (hback : Follows mid next) :
    Follows s next where
  hasCfg := hback.hasCfg.trans hfront.hasCfg
  emmEnabled := hback.emmEnabled.trans hfront.emmEnabled
  caidFilter := hback.caidFilter.trans hfront.caidFilter
  joinedPids := hback.joinedPids.trans hfront.joinedPids
  trace := hfront.trace.trans hback.trace

theorem follows_handleSection (h : handleSection pid sec s = some next) : Follows s next := by
  obtain ⟨tables, htables, rfl⟩ := exists_tables_of_handleSection h
  obtain ⟨hemm, hfilter, hjoined⟩ := Tables.handleSection_settings htables
  exact ⟨rfl, hemm, hfilter, hjoined, List.prefix_append _ _⟩

theorem follows_settle (s : SatipPSI) : Follows s (settle s) := by
  refine ⟨hasCfg_settle s, ?_, ?_, ?_, prefix_settle s⟩ <;> rw [tables_settle]

theorem follows_processPacket (hs : AssemblersOk s) {p : List UInt8} (hp : p.length = tsPacketSize)
    (h : processPacket p s = some next) : Follows s next := by
  have hcount : Follows s (countPacket s) := ⟨rfl, rfl, rfl, rfl, List.prefix_rfl⟩
  rcases processPacket_cases hp hs h with rfl | ⟨pid, secs, data, mid, -, -, hmid, rfl⟩
  · exact hcount
  · have hsections : Follows s mid := by
      refine handleAll_rule (motive := Follows s) ?_ hcount hmid
      intro t sec after ht hafter
      exact ht.trans (follows_handleSection hafter)
    have hkeep : Follows mid (keepPending pid data mid) :=
      ⟨rfl, rfl, rfl, rfl, List.prefix_rfl⟩
    exact (hsections.trans hkeep).trans (follows_settle _)

theorem follows_processTS (hs : AssemblersOk s) {data : List UInt8}
    (h : processTS data s = some next) : Follows s next := by
  refine (processTS_rule (motive := Follows s) hs ?_ (Follows.refl s) h).2
  intro p t t' hp hassemblers ht ht'
  exact ht.trans (follows_processPacket hassemblers hp ht')

/-- No operation changes the settings. -/
theorem settings_run (hs : AssemblersOk s) {ops : List Op}
    (h : Runs.run PSI.step s ops = some next) :
    next.hasCfg = s.hasCfg ∧ next.tables.emmEnabled = s.tables.emmEnabled ∧
      next.tables.caidFilter = s.tables.caidFilter := by
  have hstep : ∀ t op t', (AssemblersOk t ∧ t.hasCfg = s.hasCfg ∧
      t.tables.emmEnabled = s.tables.emmEnabled ∧ t.tables.caidFilter = s.tables.caidFilter) →
        PSI.step t op = some t' → AssemblersOk t' ∧ t'.hasCfg = s.hasCfg ∧
          t'.tables.emmEnabled = s.tables.emmEnabled ∧
            t'.tables.caidFilter = s.tables.caidFilter := by
    rintro t op t' ⟨hassemblers, hcfg, hemm, hfilter⟩ hnext
    obtain ⟨u, hu, hassemblers'⟩ := exists_step op hassemblers
    obtain rfl := Option.some.inj (hnext.symm.trans hu)
    refine ⟨hassemblers', ?_⟩
    cases op with
    | reset =>
      obtain rfl := Option.some.inj hnext
      rw [hasCfg_reset, tables_reset]
      exact ⟨hcfg, hemm, hfilter⟩
    | setJoinedPids pids =>
      obtain rfl := Option.some.inj hnext
      rw [hasCfg_setJoinedPids, tables_setJoinedPids]
      exact ⟨hcfg, hemm, hfilter⟩
    | processTS data =>
      have hfollows := follows_processTS hassemblers hnext
      exact ⟨hfollows.hasCfg.trans hcfg, hfollows.emmEnabled.trans hemm,
        hfollows.caidFilter.trans hfilter⟩
  have hreach : Runs.Reachable PSI.step s next := ⟨ops, h⟩
  exact (hreach.invariant hstep ⟨hs, rfl, rfl, rfl⟩).2

end SatipClient.PSI
