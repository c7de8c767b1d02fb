import SatipClient.Vtuner.State

/-!
# The two interfaces of the device

A driver of the vtuner device knows the requests by the numbers from 1 on, or by those from 11 on,
and the client is built for either.  `openVtuner` finds out which numbers the driver knows with
`VTUNER_SET_NAME`, whose number the other interface does not use, and from then on works with an
offset.  What the driver answers may depend on everything it was asked before.
-/

namespace SatipClient.Vtuner

/-- `VTUNER_*` -/
inductive IoctlRequest where
  | getMessage
  | setResponse
  | setName
  | setType
  | setHasOutputs
  | setFeInfo
  | setDelsys
  deriving DecidableEq

/-- The number of a request without the offset. -/
def IoctlRequest.index : IoctlRequest → ℤ
  | getMessage => 1
  | setResponse => 2
  | setName => 3
  | setType => 4
  | setHasOutputs => 5
  | setFeInfo => 6
  | setDelsys => 7

/-- The number of a request in the legacy interface, or in the extended one. -/
def number (extended : Bool) (request : IoctlRequest) : ℤ :=
  if extended then 10 + request.index else request.index

/-- What `ioctl` returns. -/
inductive Outcome where
  | ok
  /-- `EINVAL` or `ENOTTY` -/
  | unknown
  | failed
  deriving DecidableEq

/-- What is added to the numbers, when the driver does not know the one that sets the name. -/
def otherOffset (extended : Bool) : ℤ := if number extended .setName = 13 then -10 else 10

section openVtuner

variable {m : Type → Type} [Monad m] (ioctl : ℤ → m Outcome) (extended : Bool)

/-- `openVtuner` up to the first request that was understood: its result, and `m_ioctl_offset`.
The client is built for the extended interface or for the other. -/
def setName : m (Outcome × ℤ) := do
  let result ← ioctl (number extended .setName)
  if result = .unknown then
    let again ← ioctl (number extended .setName + otherOffset extended)
    pure (again, otherOffset extended)
  else pure (result, 0)

/-- What `openVtuner` asks of a node that is open: `m_ioctl_offset`, unless it fails. -/
def control : m (Option ℤ) := do
  let named ← setName ioctl extended
  if named.1 ≠ .ok then pure none
  else
    let typed ← ioctl (number extended .setType + named.2)
    if typed ≠ .ok then pure none
    else
      let informed ← ioctl (number extended .setFeInfo + named.2)
      if informed ≠ .ok then pure none
      else
        let _ ← ioctl (number extended .setDelsys + named.2)
        let _ ← ioctl (number extended .setHasOutputs + named.2)
        pure (some named.2)

end openVtuner

/-! ## A driver -/

/-- What the driver answers to a number, after it was asked others. -/
abbrev Driver := List ℤ → ℤ → Outcome

/-- The driver is asked. -/
def ioctl (driver : Driver) (n : ℤ) : StateM (List ℤ) Outcome :=
  fun asked ↦ (driver asked n, asked ++ [n])

/-- The numbers that `vtunerEvent` asks for: there is no message if the first fails. -/
def eventNumbers (extended : Bool) (offset : ℤ) (event : Option Message) : List ℤ :=
  (number extended .getMessage + offset) ::
    match event with
    | none | some (.pidlist _) => []
    | some _ => [number extended .setResponse + offset]

/-- The numbers that the driver is asked for, from `openVtuner` on. -/
def numbers (driver : Driver) (extended : Bool) (events : List (Option Message)) : List ℤ :=
  ((control (ioctl driver) extended).run []).2 ++
    match ((control (ioctl driver) extended).run []).1 with
    | none => []
    | some offset => events.flatMap (eventNumbers extended offset)

/-! ## What the driver is asked -/

variable {driver : Driver} {extended mine : Bool}

/-- The driver is of one interface, and does not know the number by which the other sets the
name. -/
def Speaks (driver : Driver) (mine : Bool) : Prop :=
  ∀ asked, driver asked (number (!mine) .setName) = .unknown

/-- The driver does what it has to be asked for. -/
def Accepts (driver : Driver) (mine : Bool) : Prop :=
  ∀ asked request, request = .setName ∨ request = .setType ∨ request = .setFeInfo →
    driver asked (number mine request) = .ok

/-- The numbers that a driver of an interface may be asked for. -/
def Proper (mine : Bool) (n : ℤ) : Prop :=
  n = number (!mine) .setName ∨ ∃ request, n = number mine request

/-- The offset leads to the numbers of the driver. -/
def Leads (mine extended : Bool) (offset : ℤ) : Prop :=
  ∀ request, number extended request + offset = number mine request

/-- What a client of the other interface adds to its numbers. -/
theorem leads_of_ne (h : extended ≠ mine) : Leads mine extended (otherOffset extended) := by
  intro request
  cases extended with
  | false =>
    obtain rfl : mine = true := by simpa using h.symm
    simp [number, otherOffset, IoctlRequest.index, add_comm]
  | true =>
    obtain rfl : mine = false := by simpa using h.symm
    simp [number, otherOffset, IoctlRequest.index]

theorem leads_zero (mine : Bool) : Leads mine mine 0 := fun _ ↦ add_zero _

section Asks

variable {α β : Type} {Post : α → Prop}

/-- The program asks for proper numbers only, and its result is as promised. -/
def Asks (mine : Bool) (program : StateM (List ℤ) α) (Post : α → Prop) : Prop :=
  ∀ asked, ∃ a more, program.run asked = (a, asked ++ more) ∧ (∀ n ∈ more, Proper mine n) ∧ Post a

theorem asks_pure {a : α} (h : Post a) : Asks mine (pure a) Post :=
  fun asked ↦ ⟨a, [], congrArg (a, ·) (List.append_nil asked).symm, by simp, h⟩

theorem asks_bind {program : StateM (List ℤ) β} {rest : β → StateM (List ℤ) α} {Mid : β → Prop}
    (h : Asks mine program Mid) (hrest : ∀ b, Mid b → Asks mine (rest b) Post) :
    Asks mine (program >>= rest) Post := by
  intro asked
  obtain ⟨b, front, hrun, hfront, hb⟩ := h asked
  obtain ⟨a, back, hrun', hback, ha⟩ := hrest b hb (asked ++ front)
  refine ⟨a, front ++ back, ?_, ?_, ha⟩
  · rw [StateT.run_bind, hrun, ← List.append_assoc]
    exact hrun'
  · intro n hn
    exact (List.mem_append.mp hn).elim (hfront n) (hback n)

/-- A proper number is asked for. -/
theorem asks_ioctl {n : ℤ} (h : Proper mine n) :
    Asks mine (ioctl driver n) fun result ↦ ∃ asked, driver asked n = result :=
  fun asked ↦ ⟨driver asked n, [n], rfl, by simpa using h, asked, rfl⟩

end Asks

theorem asks_setName (h : Speaks driver mine) :
    Asks mine (setName (ioctl driver) extended) fun named ↦
      (named.1 = .ok → Leads mine extended named.2) ∧ (Accepts driver mine → named.1 = .ok) := by
  by_cases hmine : extended = mine
  · subst hmine
    refine asks_bind (asks_ioctl (Or.inr ⟨.setName, rfl⟩)) fun result hresult ↦ ?_
    obtain ⟨asked, hasked⟩ := hresult
    have hknown (haccepts : Accepts driver extended) : result = .ok := by
      rw [← hasked]
      exact haccepts asked .setName (Or.inl rfl)
    split_ifs with hunknown
    · -- the number of the other interface is tried, which this driver does not know
      rw [leads_of_ne (Bool.self_ne_not extended) .setName]
      refine asks_bind (asks_ioctl (Or.inl rfl)) fun again hagain ↦ asks_pure ⟨?_, ?_⟩
      · obtain ⟨asked', hasked'⟩ := hagain
        rw [← hasked', h asked']
        nofun
      · intro haccepts
        rw [hknown haccepts] at hunknown
        cases hunknown
    · exact asks_pure ⟨fun _ ↦ leads_zero extended, hknown⟩
  · have hleads := leads_of_ne hmine
    have hforeign : number extended .setName = number (!mine) .setName := by
      rw [Bool.eq_not.mpr hmine]
    refine asks_bind (asks_ioctl (Or.inl hforeign)) fun result hresult ↦ ?_
    obtain ⟨asked, hasked⟩ := hresult
    rw [hforeign, h asked] at hasked
    rw [if_pos hasked.symm]
    refine asks_bind (asks_ioctl (Or.inr ⟨.setName, hleads .setName⟩)) fun again hagain ↦
      asks_pure ⟨fun _ ↦ hleads, fun haccepts ↦ ?_⟩
    obtain ⟨asked', hasked'⟩ := hagain
    rw [← hasked', hleads .setName]
    exact haccepts asked' .setName (Or.inl rfl)

/-- Once the name was set, the driver is asked for its own numbers. -/
theorem asks_control (h : Speaks driver mine) :
    Asks mine (control (ioctl driver) extended) fun opened ↦
      (∀ offset ∈ opened, Leads mine extended offset) ∧
        (Accepts driver mine → opened.isSome) := by
  refine asks_bind (asks_setName h) fun named hnamed ↦ ?_
  obtain ⟨hleads, hname⟩ := hnamed
  have hnone {asked : List ℤ} {request : IoctlRequest} {result : Outcome}
      (hrequest : request = .setName ∨ request = .setType ∨ request = .setFeInfo)
      (hresult : driver asked (number mine request) = result) (hnot : result ≠ .ok) :
      Asks mine (pure none) fun opened : Option ℤ ↦
        (∀ offset ∈ opened, Leads mine extended offset) ∧
          (Accepts driver mine → opened.isSome) := by
    apply asks_pure
    refine ⟨by simp, fun haccepts ↦ ?_⟩
    exact absurd (hresult.symm.trans (haccepts asked request hrequest)) hnot
  split_ifs with hfailed
  · exact asks_pure ⟨by simp, fun haccepts ↦ absurd (hname haccepts) hfailed⟩
  have hled : Leads mine extended named.2 := hleads (not_ne_iff.mp hfailed)
  rw [hled .setType, hled .setFeInfo, hled .setDelsys, hled .setHasOutputs]
  have hown (request : IoctlRequest) : Proper mine (number mine request) := Or.inr ⟨request, rfl⟩
  refine asks_bind (asks_ioctl (hown .setType)) fun typed htyped ↦ ?_
  obtain ⟨asked, htyped⟩ := htyped
  split_ifs with hfailed
  · exact hnone (Or.inr (Or.inl rfl)) htyped hfailed
  refine asks_bind (asks_ioctl (hown .setFeInfo)) fun informed hinformed ↦ ?_
  obtain ⟨asked', hinformed⟩ := hinformed
  split_ifs with hfailed
  · exact hnone (Or.inr (Or.inr rfl)) hinformed hfailed
  refine asks_bind (asks_ioctl (hown .setDelsys)) fun _ _ ↦ ?_
  refine asks_bind (asks_ioctl (hown .setHasOutputs)) fun _ _ ↦ asks_pure ⟨?_, fun _ ↦ rfl⟩
  rintro offset ⟨⟩
  exact hled

theorem proper_eventNumbers {offset : ℤ} (h : Leads mine extended offset) (event : Option Message)
    {n : ℤ} (hn : n ∈ eventNumbers extended offset event) : Proper mine n := by
  unfold eventNumbers at hn
  rw [h .getMessage, h .setResponse] at hn
  rcases List.mem_cons.mp hn with rfl | hn
  · exact Or.inr ⟨.getMessage, rfl⟩
  · split at hn
    · cases hn
    · cases hn
    · exact Or.inr ⟨.setResponse, List.mem_singleton.mp hn⟩

/-- Whichever interface the client is built for: a driver of either is never asked for a number of
the other one, but for the one that sets the name; and one that accepts what it has to is opened. -/
theorem driver_of_either (h : Speaks driver mine) (events : List (Option Message)) :
    (∀ n ∈ numbers driver extended events, Proper mine n) ∧
      (Accepts driver mine → ((control (ioctl driver) extended).run []).1.isSome) := by
  have hasks : Asks mine (control (ioctl driver) extended) _ := asks_control h
  obtain ⟨opened, more, hrun, hmore, hleads, hopens⟩ := hasks []
  rw [hrun]
  refine ⟨?_, hopens⟩
  intro n hn
  unfold numbers at hn
  rw [hrun, List.nil_append] at hn
  rcases List.mem_append.mp hn with hn | hn
  · exact hmore n hn
  · cases opened with
    | none => cases hn
    | some offset =>
      obtain ⟨event, _, hn⟩ := List.mem_flatMap.mp hn
      exact proper_eventNumbers (hleads offset rfl) event hn

/-- A driver of the legacy interface that accepts all of its requests. -/
def legacyDriver : Driver := fun _ n ↦ if 1 ≤ n ∧ n ≤ 7 then .ok else .unknown

theorem driver_of_either_legacyDriver :
    (∀ n ∈ numbers legacyDriver true [none, some .readBer, some (.pidlist [])], Proper false n) ∧
      ((control (ioctl legacyDriver) true).run []).1.isSome := by
  have hspeaks : Speaks legacyDriver false := fun _ ↦ rfl
  have haccepts : Accepts legacyDriver false := by
    intro _ request hrequest
    rcases hrequest with rfl | rfl | rfl <;> rfl
  obtain ⟨hproper, hopens⟩ := driver_of_either hspeaks [none, some .readBer, some (.pidlist [])]
  exact ⟨hproper, hopens haccepts⟩

end SatipClient.Vtuner
