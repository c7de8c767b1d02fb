import Mathlib.Control.Monad.Cont
import Mathlib.Data.Finset.Card
import Mathlib.Logic.Relation

/-!
# Descriptors

The threads of a process share one table of open descriptors.  A thread is the tree of the calls it
makes, and the calls of different threads come in any order.  `Safe` follows the descriptors that a
thread has opened itself: it closes no others and never holds more than it may, and the threads it
starts hold no more than their share.  What is safe thread by thread is safe for the process,
however the threads are interleaved (`Invariant.step`); `Ensures` is the precondition that a
program needs for what it promises.
-/

namespace SatipClient.Descriptors

/-- An open descriptor, with the port it is bound to. -/
@[ext]
structure Descriptor where
  fd : ℕ
  port : Option ℕ := none
  deriving DecidableEq

/-- The open descriptors. -/
abbrev Table := Finset Descriptor

/-- A thread: the next call that it makes, and what it does then. -/
inductive Thread (Note : Type) where
  | done
  /-- `open`, `socket` -/
  | create (next : Option ℕ → Thread Note)
  /-- `pipe` -/
  | createPair (next : Option (ℕ × ℕ) → Thread Note)
  | bind (fd : Option ℕ) (port : ℕ) (next : Bool → Thread Note)
  | close (fd : Option ℕ) (next : Thread Note)
  /-- a call that neither opens nor closes anything -/
  | ask (next : Bool → Thread Note)
  /-- another thread is started -/
  | fork (child next : Thread Note)
  /-- nothing is called -/
  | note (message : Note) (next : Thread Note)

variable {Note : Type}

/-- The number is not in use. -/
def Fresh (fd : ℕ) (table : Table) : Prop := ∀ d ∈ table, d.fd ≠ fd

instance (fd : ℕ) (table : Table) : Decidable (Fresh fd table) :=
  inferInstanceAs (Decidable (∀ d ∈ table, d.fd ≠ fd))

/-- What a call makes of the table and of the thread, and the threads that it starts. -/
inductive Call (table : Table) :
    Thread Note → Table → Thread Note → List (Thread Note) → Prop where
  | created (next : Option ℕ → Thread Note) (fd : ℕ) (hfresh : Fresh fd table) :
    Call table (.create next) (insert { fd := fd } table) (next (some fd)) []
  | notCreated (next : Option ℕ → Thread Note) : Call table (.create next) table (next none) []
  | pair (next : Option (ℕ × ℕ) → Thread Note) (fd fd' : ℕ) (hne : fd ≠ fd')
    (hfresh : Fresh fd table) (hfresh' : Fresh fd' table) :
    Call table (.createPair next) (insert { fd := fd } (insert { fd := fd' } table))
      (next (some (fd, fd'))) []
  | noPair (next : Option (ℕ × ℕ) → Thread Note) :
    Call table (.createPair next) table (next none) []
  | bound (fd port : ℕ) (next : Bool → Thread Note) (hopen : { fd := fd } ∈ table)
    (hfree : ∀ d ∈ table, d.port ≠ some port) :
    Call table (.bind (some fd) port next)
      (insert { fd := fd, port := some port } (table.erase { fd := fd })) (next true) []
  | notBound (fd : Option ℕ) (port : ℕ) (next : Bool → Thread Note) :
    Call table (.bind fd port next) table (next false) []
  | closed (d : Descriptor) (next : Thread Note) (hopen : d ∈ table) :
    Call table (.close (some d.fd) next) (table.erase d) next []
  | notOpen (fd : Option ℕ) (next : Thread Note) (hfresh : ∀ n ∈ fd, Fresh n table) :
    Call table (.close fd next) table next []
  | answered (next : Bool → Thread Note) (answer : Bool) :
    Call table (.ask next) table (next answer) []
  | forked (child next : Thread Note) : Call table (.fork child next) table next [child]
  | noted (message : Note) (next : Thread Note) : Call table (.note message next) table next []

/-- The table, the thread that was there first, and those that were started. -/
structure Process (Note : Type) where
  table : Table
  main : Thread Note
  workers : List (Thread Note) := []

/-- One of the threads makes its next call. -/
inductive Step : Process Note → Process Note → Prop where
  | main {table table' : Table} {t t' : Thread Note} {workers started : List (Thread Note)}
    (hcall : Call table t table' t' started) :
    Step ⟨table, t, workers⟩ ⟨table', t', workers ++ started⟩
  | worker {table table' : Table} {t t' main : Thread Note}
    {front back started : List (Thread Note)} (hcall : Call table t table' t' started) :
    Step ⟨table, main, front ++ t :: back⟩ ⟨table', main, front ++ t' :: back ++ started⟩

/-- The processes that one can become. -/
abbrev Reaches : Process Note → Process Note → Prop := Relation.ReflTransGen Step

/-! ## The table -/

/-- The descriptors are told apart by their numbers, and by their ports. -/
structure Distinct (table : Table) : Prop where
  fd : ∀ d ∈ table, ∀ e ∈ table, d.fd = e.fd → d = e
  port : ∀ d ∈ table, ∀ e ∈ table, ∀ n, d.port = some n → e.port = some n → d = e

section Distinct

variable {table table' : Table} {fd : ℕ}

theorem Fresh.notMem (h : Fresh fd table) (port : Option ℕ) : { fd := fd, port := port } ∉ table :=
  fun hmem ↦ h _ hmem rfl

theorem Fresh.mono (h : Fresh fd table) (hsub : table' ⊆ table) : Fresh fd table' :=
  fun d hd ↦ h d (hsub hd)

theorem Distinct.mono (h : Distinct table) (hsub : table' ⊆ table) : Distinct table' where
  fd d hd e he := h.fd d (hsub hd) e (hsub he)
  port d hd e he := h.port d (hsub hd) e (hsub he)

/-- A number that is not in use, with no port or with one that is not in use either. -/
theorem Distinct.insert (h : Distinct table) (hfresh : Fresh fd table) {port : Option ℕ}
    (hport : ∀ n ∈ port, ∀ d ∈ table, d.port ≠ some n) :
    Distinct (insert { fd := fd, port := port } table) where
  fd d hd e he hsame := by
    rcases Finset.mem_insert.mp hd with rfl | hd
    · rcases Finset.mem_insert.mp he with rfl | he
      · rfl
      · exact absurd hsame.symm (hfresh e he)
    · rcases Finset.mem_insert.mp he with rfl | he
      · exact absurd hsame (hfresh d hd)
      · exact h.fd d hd e he hsame
  port d hd e he n hdn hen := by
    rcases Finset.mem_insert.mp hd with rfl | hd
    · rcases Finset.mem_insert.mp he with rfl | he
      · rfl
      · exact absurd hen (hport n hdn e he)
    · rcases Finset.mem_insert.mp he with rfl | he
      · exact absurd hdn (hport n hen d hd)
      · exact h.port d hd e he n hdn hen

/-- Behind a descriptor that is taken out, its number is free. -/
theorem Distinct.fresh_erase (h : Distinct table) {d : Descriptor} (hd : d ∈ table) :
    Fresh d.fd (table.erase d) := by
  intro e he hsame
  obtain ⟨hne, he⟩ := Finset.mem_erase.mp he
  exact hne (h.fd e he d hd hsame)

/-- Every call keeps the descriptors apart. -/
theorem Call.distinct {t t' : Thread Note} {started : List (Thread Note)}
    (hcall : Call table t table' t' started) (h : Distinct table) : Distinct table' := by
  cases hcall with
  | created next fd hfresh => exact h.insert hfresh (by simp)
  | pair next fd fd' hne hfresh hfresh' =>
    have hpair : Fresh fd (Insert.insert { fd := fd' } table) := by
      intro d hd
      rcases Finset.mem_insert.mp hd with rfl | hd
      · exact hne.symm
      · exact hfresh d hd
    exact (h.insert hfresh' (by simp)).insert hpair (by simp)
  | bound fd port next hopen hfree =>
    have hrest : Distinct (table.erase { fd := fd }) := h.mono (Finset.erase_subset _ _)
    apply hrest.insert (h.fresh_erase hopen)
    intro n hn d hd
    rw [← Option.mem_some_iff.mp hn]
    exact hfree d (Finset.mem_of_mem_erase hd)
  | closed d next hopen => exact h.mono (Finset.erase_subset d table)
  | notCreated | noPair | notBound | notOpen | answered | forked | noted => exact h

end Distinct

/-! ## What a thread may do -/

section Safe

variable (Ok : Note → Table → Prop) (share : ℕ)

/-- From here on the thread closes only what it holds and never holds more than the limit, and what
it notes is true of what it holds; the threads that it starts are safe with their share. -/
def Safe : ℕ → Table → Thread Note → Prop
  | _, _, .done => True
  | limit, held, .create next =>
    Safe limit held (next none) ∧ ∀ fd, Fresh fd held →
      held.card + 1 ≤ limit ∧ Safe limit (insert { fd := fd } held) (next (some fd))
  | limit, held, .createPair next =>
    Safe limit held (next none) ∧ ∀ fd fd', fd ≠ fd' → Fresh fd held → Fresh fd' held →
      held.card + 2 ≤ limit ∧
        Safe limit (insert { fd := fd } (insert { fd := fd' } held)) (next (some (fd, fd')))
  | limit, held, .bind fd port next =>
    Safe limit held (next false) ∧ ∀ n ∈ fd, (∃ d ∈ held, d.fd = n) ∧ ({ fd := n } ∈ held →
      Safe limit (insert { fd := n, port := some port } (held.erase { fd := n })) (next true))
  | limit, held, .close fd next =>
    (fd = none → Safe limit held next) ∧
      ∀ n ∈ fd, ∃ d ∈ held, d.fd = n ∧ Safe limit (held.erase d) next
  | limit, held, .ask next => ∀ answer, Safe limit held (next answer)
  | limit, held, .fork child next => Safe share ∅ child ∧ Safe limit held next
  | limit, held, .note message next => Ok message held ∧ Safe limit held next

/-- What the threads have opened that were started. -/
inductive Owned : Table → List (Thread Note) → Prop where
  | nil : Owned ∅ []
  | cons {held rest : Table} {t : Thread Note} {ts : List (Thread Note)}
    (hsafe : Safe Ok share share held t) (hcard : held.card ≤ share) (hdisj : Disjoint held rest)
    (hrest : Owned rest ts) : Owned (held ∪ rest) (t :: ts)

variable {Ok share} {owned others table table' held : Table} {limit : ℕ}
  {t t' : Thread Note} {ts us started : List (Thread Note)}

theorem Owned.card_le (h : Owned Ok share owned ts) : owned.card ≤ share * ts.length := by
  induction h with
  | nil => simp
  | cons _ hcard _ _ ih =>
    rw [List.length_cons, Nat.mul_succ, Nat.add_comm]
    exact (Finset.card_union_le _ _).trans (Nat.add_le_add hcard ih)

theorem Owned.append (h : Owned Ok share owned ts) (hrest : Owned Ok share others us)
    (hdisj : Disjoint owned others) : Owned Ok share (owned ∪ others) (ts ++ us) := by
  induction h with
  | nil => rwa [Finset.empty_union]
  | cons hsafe hcard hdisj' _ ih =>
    obtain ⟨hheld, hmore⟩ := Finset.disjoint_union_left.mp hdisj
    rw [Finset.union_assoc]
    exact .cons hsafe hcard (Finset.disjoint_union_right.mpr ⟨hdisj', hheld⟩) (ih hmore)

/-- The descriptors of a list of threads are those of its parts. -/
theorem Owned.split (h : Owned Ok share owned (ts ++ us)) :
    ∃ front back, Owned Ok share front ts ∧ Owned Ok share back us ∧ Disjoint front back ∧
      owned = front ∪ back := by
  induction ts generalizing owned with
  | nil => exact ⟨∅, owned, .nil, h, by simp, by simp⟩
  | cons t ts ih =>
    cases h with
    | cons hsafe hcard hdisj hrest =>
      obtain ⟨front, back, hfront, hback, hapart, rfl⟩ := ih hrest
      obtain ⟨hleft, hright⟩ := Finset.disjoint_union_right.mp hdisj
      refine ⟨_, back, .cons hsafe hcard hleft hfront, hback, ?_, ?_⟩
      · exact Finset.disjoint_union_left.mpr ⟨hright, hapart⟩
      · rw [Finset.union_assoc]

/-- What one of the threads holds. -/
theorem Owned.mem (h : Owned Ok share owned ts) (ht : t ∈ ts) :
    ∃ held, held ⊆ owned ∧ Safe Ok share share held t := by
  induction h with
  | nil => cases ht
  | @cons held rest u us hsafe hcard hdisj hrest ih =>
    rcases List.mem_cons.mp ht with rfl | ht
    · exact ⟨held, Finset.subset_union_left, hsafe⟩
    · obtain ⟨held', hsub, hsafe'⟩ := ih ht
      exact ⟨held', hsub.trans Finset.subset_union_right, hsafe'⟩

/-- Threads that were just started hold nothing. -/
theorem owned_started (h : ∀ u ∈ started, Safe Ok share share ∅ u) :
    Owned Ok share ∅ started := by
  induction started with
  | nil => exact .nil
  | cons u us ih =>
    have hrest := ih fun v hv ↦ h v (List.mem_cons_of_mem u hv)
    exact .cons (h u List.mem_cons_self) (Nat.zero_le share) (Finset.disjoint_empty_left ∅) hrest

/-- A call of a thread that is safe changes what it holds, and nothing else. -/
structure Framed (Ok : Note → Table → Prop) (share limit : ℕ) (others table : Table)
    (t : Thread Note) (started : List (Thread Note)) (held : Table) : Prop where
  table_eq : table = held ∪ others
  disjoint : Disjoint held others
  card : held.card ≤ limit
  safe : Safe Ok share limit held t
  started : ∀ u ∈ started, Safe Ok share share ∅ u

/-- A number that nobody uses is used by none of the descriptors. -/
theorem Fresh.disjoint {fd : ℕ} (hfresh : Fresh fd (held ∪ others)) (hdisj : Disjoint held others) :
    Disjoint (insert { fd := fd } held) others := by
  rw [Finset.disjoint_insert_left]
  exact ⟨fun hmem ↦ hfresh.notMem none (Finset.mem_union_right _ hmem), hdisj⟩

theorem Call.frame (hcall : Call (held ∪ others) t table' t' started)
    (hdistinct : Distinct (held ∪ others)) (hsafe : Safe Ok share limit held t)
    (hcard : held.card ≤ limit) (hdisj : Disjoint held others) :
    ∃ held', Framed Ok share limit others table' t' started held' := by
  have hmine {n : ℕ} (d : Descriptor) (hd : d ∈ held ∪ others) (hn : d.fd = n)
      (hheld : ∃ e ∈ held, e.fd = n) : d ∈ held := by
    obtain ⟨e, he, hen⟩ := hheld
    rwa [hdistinct.fd d hd e (Finset.mem_union_left _ he) (hn.trans hen.symm)]
  have herase {d : Descriptor} (hd : d ∈ held) :
      (held ∪ others).erase d = held.erase d ∪ others := by
    rw [Finset.erase_union_distrib, Finset.erase_eq_of_notMem (Finset.disjoint_left.mp hdisj hd)]
  have hless (d : Descriptor) : Disjoint (held.erase d) others :=
    hdisj.mono_left (Finset.erase_subset d held)
  have hmono : held ⊆ held ∪ others := Finset.subset_union_left
  cases hcall with
  | created next fd hfresh =>
    obtain ⟨hle, hnext⟩ := hsafe.2 fd (hfresh.mono hmono)
    refine ⟨insert { fd := fd } held, ?_, hfresh.disjoint hdisj, ?_, hnext, by simp⟩
    · rw [Finset.insert_union]
    · exact (Finset.card_insert_le _ _).trans hle
  | pair next fd fd' hne hfresh hfresh' =>
    obtain ⟨hle, hnext⟩ := hsafe.2 fd fd' hne (hfresh.mono hmono) (hfresh'.mono hmono)
    refine ⟨insert { fd := fd } (insert { fd := fd' } held), ?_, ?_, ?_, hnext, by simp⟩
    · rw [Finset.insert_union, Finset.insert_union]
    · rw [Finset.disjoint_insert_left]
      exact ⟨fun hmem ↦ hfresh.notMem none (Finset.mem_union_right _ hmem), hfresh'.disjoint hdisj⟩
    · calc (insert { fd := fd } (insert { fd := fd' } held)).card
        _ ≤ (insert { fd := fd' } held).card + 1 := Finset.card_insert_le _ _
        _ ≤ held.card + 1 + 1 := Nat.add_le_add_right (Finset.card_insert_le _ _) 1
        _ ≤ limit := hle
  | bound fd port next hopen hfree =>
    obtain ⟨hheld, hnext⟩ := hsafe.2 fd rfl
    have hmem : { fd := fd } ∈ held := hmine { fd := fd } hopen rfl hheld
    refine ⟨insert { fd := fd, port := some port } (held.erase { fd := fd }), ?_, ?_, ?_,
      hnext hmem, by simp⟩
    · rw [herase hmem, Finset.insert_union]
    · rw [Finset.disjoint_insert_left]
      refine ⟨fun hother ↦ ?_, hless _⟩
      exact hfree _ (Finset.mem_union_right _ hother) rfl
    · calc (insert { fd := fd, port := some port } (held.erase { fd := fd })).card
        _ ≤ (held.erase { fd := fd }).card + 1 := Finset.card_insert_le _ _
        _ = held.card := Finset.card_erase_add_one hmem
        _ ≤ limit := hcard
  | closed d next hopen =>
    obtain ⟨e, he, hfd, hnext⟩ := hsafe.2 d.fd rfl
    obtain rfl : e = d := hdistinct.fd e (hmono he) d hopen hfd
    refine ⟨held.erase e, herase he, hless e, ?_, hnext, by simp⟩
    exact (Finset.card_le_card (Finset.erase_subset e held)).trans hcard
  | notOpen fd next hfresh =>
    cases fd with
    | none => exact ⟨held, rfl, hdisj, hcard, hsafe.1 rfl, by simp⟩
    | some n =>
      obtain ⟨e, he, hfd, _⟩ := hsafe.2 n rfl
      exact absurd hfd (hfresh n rfl e (hmono he))
  | notCreated => exact ⟨held, rfl, hdisj, hcard, hsafe.1, by simp⟩
  | noPair => exact ⟨held, rfl, hdisj, hcard, hsafe.1, by simp⟩
  | notBound => exact ⟨held, rfl, hdisj, hcard, hsafe.1, by simp⟩
  | answered next answer => exact ⟨held, rfl, hdisj, hcard, hsafe answer, by simp⟩
  | forked child next => exact ⟨held, rfl, hdisj, hcard, hsafe.2, by simpa using hsafe.1⟩
  | noted => exact ⟨held, rfl, hdisj, hcard, hsafe.2, by simp⟩

end Safe

/-! ## All threads -/

/-- Beside the descriptors that were open at first there are those of the main thread and those of
the others. -/
structure Invariant (Ok : Note → Table → Prop) (share limit : ℕ) (base : Table)
    (p : Process Note) : Prop where
  distinct : Distinct p.table
  owned : ∃ held owned, p.table = held ∪ (owned ∪ base) ∧ Disjoint held (owned ∪ base) ∧
    Disjoint owned base ∧ held.card ≤ limit ∧ Safe Ok share limit held p.main ∧
      Owned Ok share owned p.workers

variable {Ok : Note → Table → Prop} {share limit : ℕ} {base : Table} {p next : Process Note}

theorem invariant_start {main : Thread Note} (hbase : Distinct base)
    (hmain : Safe Ok share limit ∅ main) : Invariant Ok share limit base ⟨base, main, []⟩ where
  distinct := hbase
  owned := ⟨∅, ∅, by simp, by simp, by simp, by simp, hmain, .nil⟩

/-- Whichever thread makes its next call. -/
theorem Invariant.step (h : Invariant Ok share limit base p) (hstep : Step p next) :
    Invariant Ok share limit base next := by
  obtain ⟨held, owned, htable, hdisj, hbase, hcard, hsafe, howned⟩ := h.owned
  have hdistinct : Distinct p.table := h.distinct
  cases hstep with
  | @main table table' t t' workers started hcall =>
    obtain rfl : table = held ∪ (owned ∪ base) := htable
    obtain ⟨held', hframe⟩ := hcall.frame hdistinct hsafe hcard hdisj
    refine ⟨hcall.distinct hdistinct, held', owned, hframe.table_eq, hframe.disjoint, hbase,
      hframe.card, hframe.safe, ?_⟩
    have hmore := howned.append (owned_started hframe.started) (Finset.disjoint_empty_right owned)
    rwa [Finset.union_empty] at hmore
  | @worker table table' t t' main front back started hcall =>
    obtain ⟨before, rest, hbefore, hrest, hapart, rfl⟩ := howned.split
    cases hrest with
    | @cons mine after _ _ hmine hshare hbeside hafter =>
      -- the call is made beside everything that this thread does not hold
      obtain rfl : table = mine ∪ (held ∪ (before ∪ after) ∪ base) := by
        change table = held ∪ (before ∪ (mine ∪ after) ∪ base) at htable
        rw [htable]
        ac_rfl
      simp only [Finset.disjoint_union_left, Finset.disjoint_union_right] at hdisj hbase hapart
      have hothers : Disjoint mine (held ∪ (before ∪ after) ∪ base) := by
        simp only [Finset.disjoint_union_right]
        exact ⟨⟨hdisj.1.2.1.symm, hapart.1.symm, hbeside⟩, hbase.2.1⟩
      obtain ⟨mine', hframe⟩ := hcall.frame hdistinct hmine hshare hothers
      have hbeside' := hframe.disjoint
      simp only [Finset.disjoint_union_right] at hbeside'
      refine ⟨hcall.distinct hdistinct, held, before ∪ (mine' ∪ after), ?_, ?_, ?_, hcard, hsafe,
        ?_⟩
      · rw [hframe.table_eq]
        ac_rfl
      · simp only [Finset.disjoint_union_right]
        exact ⟨⟨hdisj.1.1, hbeside'.1.1.symm, hdisj.1.2.2⟩, hdisj.2⟩
      · simp only [Finset.disjoint_union_left]
        exact ⟨hbase.1, hbeside'.2, hbase.2.2⟩
      · have hcons := Owned.cons hframe.safe hframe.card hbeside'.1.2.2 hafter
        have hall : Owned Ok share (before ∪ (mine' ∪ after)) (front ++ t' :: back) := by
          apply hbefore.append hcons
          rw [Finset.disjoint_union_right]
          exact ⟨hbeside'.1.2.1.symm, hapart.2⟩
        have hmore := hall.append (owned_started hframe.started) (Finset.disjoint_empty_right _)
        rwa [Finset.union_empty] at hmore

/-- However the threads are interleaved. -/
theorem Invariant.reaches (h : Invariant Ok share limit base p) (hreach : Reaches p next) :
    Invariant Ok share limit base next := by
  induction hreach with
  | refl => exact h
  | tail _ hstep ih => exact ih.step hstep

/-- What was open at first stays open, and not much more is. -/
theorem Invariant.bounds (h : Invariant Ok share limit base p) :
    base ⊆ p.table ∧ p.table.card ≤ base.card + limit + share * p.workers.length := by
  obtain ⟨held, owned, htable, _, _, hcard, _, howned⟩ := h.owned
  rw [htable]
  refine ⟨Finset.subset_union_right.trans Finset.subset_union_right, ?_⟩
  have howned := howned.card_le
  calc (held ∪ (owned ∪ base)).card
    _ ≤ held.card + (owned ∪ base).card := Finset.card_union_le _ _
    _ ≤ held.card + (owned.card + base.card) :=
      Nat.add_le_add_left (Finset.card_union_le _ _) _
    _ ≤ base.card + limit + share * p.workers.length := by omega

/-- A thread closes only what the threads have opened. -/
theorem Invariant.closes (h : Invariant Ok share limit base p) {fd : ℕ} {t : Thread Note}
    (ht : p.main = .close (some fd) t ∨ .close (some fd) t ∈ p.workers) :
    ∃ d ∈ p.table, d.fd = fd ∧ d ∉ base := by
  obtain ⟨held, owned, htable, hdisj, hbase, _, hsafe, howned⟩ := h.owned
  rw [htable]
  rcases ht with hmain | hworker
  · rw [hmain] at hsafe
    obtain ⟨d, hd, hfd, _⟩ := hsafe.2 fd rfl
    have hnot := Finset.disjoint_left.mp hdisj hd
    exact ⟨d, Finset.mem_union_left _ hd, hfd, fun hmem ↦ hnot (Finset.mem_union_right _ hmem)⟩
  · obtain ⟨mine, hsub, hmine⟩ := howned.mem hworker
    obtain ⟨d, hd, hfd, _⟩ := hmine.2 fd rfl
    refine ⟨d, ?_, hfd, Finset.disjoint_left.mp hbase (hsub hd)⟩
    exact Finset.mem_union_right _ (Finset.mem_union_left _ (hsub hd))

/-- What the main thread notes is true of the descriptors it has opened, and the other threads have
no more than their share. -/
theorem Invariant.notes (h : Invariant Ok share limit base p) {message : Note} {t : Thread Note}
    (hmain : p.main = .note message t) :
    ∃ held, held ⊆ p.table ∧ Disjoint held base ∧ Ok message held ∧
      p.table.card ≤ base.card + held.card + share * p.workers.length := by
  obtain ⟨held, owned, htable, hdisj, _, _, hsafe, howned⟩ := h.owned
  rw [hmain] at hsafe
  rw [htable]
  refine ⟨held, Finset.subset_union_left, (Finset.disjoint_union_right.mp hdisj).2, hsafe.1, ?_⟩
  have howned := howned.card_le
  calc (held ∪ (owned ∪ base)).card
    _ ≤ held.card + (owned ∪ base).card := Finset.card_union_le _ _
    _ ≤ held.card + (owned.card + base.card) :=
      Nat.add_le_add_left (Finset.card_union_le _ _) _
    _ ≤ base.card + held.card + share * p.workers.length := by omega

/-! ## Programs -/

/-- A program is given what the thread does with its result. -/
abbrev Program (Note α : Type) := Cont (Thread Note) α

def create : Program Note (Option ℕ) := Thread.create

def createPair : Program Note (Option (ℕ × ℕ)) := Thread.createPair

def bindPort (fd : Option ℕ) (port : ℕ) : Program Note Bool := Thread.bind fd port

def close (fd : Option ℕ) : Program Note Unit := fun next ↦ .close fd (next ())

def ask : Program Note Bool := Thread.ask

def fork (child : Thread Note) : Program Note Unit := fun next ↦ .fork child (next ())

def note (message : Note) : Program Note Unit := fun next ↦ .note message (next ())

section Ensures

variable {α β : Type} {held : Table} {Post : α → Table → Prop}

/-- What comes behind the program finds what the program promises. -/
def Ensures (Ok : Note → Table → Prop) (share limit : ℕ) (held : Table) (program : Program Note α)
    (Post : α → Table → Prop) : Prop :=
  ∀ next : α → Thread Note, (∀ a after, Post a after → Safe Ok share limit after (next a)) →
    Safe Ok share limit held (program next)

theorem Ensures.mono {program : Program Note α} {Post' : α → Table → Prop}
    (h : Ensures Ok share limit held program Post)
    (hpost : ∀ a after, Post a after → Post' a after) :
    Ensures Ok share limit held program Post' :=
  fun next hnext ↦ h next fun a after ha ↦ hnext a after (hpost a after ha)

theorem ensures_pure {a : α} (h : Post a held) : Ensures Ok share limit held (pure a) Post :=
  fun _ hnext ↦ hnext a held h

theorem ensures_bind {program : Program Note β} {rest : β → Program Note α}
    (h : Ensures Ok share limit held program fun b after ↦
      Ensures Ok share limit after (rest b) Post) :
    Ensures Ok share limit held (program >>= rest) Post :=
  fun next hnext ↦ h (fun b ↦ rest b next) fun _ _ hrest ↦ hrest next hnext

theorem ensures_create {Post : Option ℕ → Table → Prop} (hcard : held.card + 1 ≤ limit)
    (hnone : Post none held)
    (hsome : ∀ fd, Fresh fd held → Post (some fd) (insert { fd := fd } held)) :
    Ensures Ok share limit held create Post :=
  fun _ hnext ↦ ⟨hnext _ _ hnone, fun fd hfresh ↦ ⟨hcard, hnext _ _ (hsome fd hfresh)⟩⟩

theorem ensures_createPair {Post : Option (ℕ × ℕ) → Table → Prop} (hcard : held.card + 2 ≤ limit)
    (hnone : Post none held)
    (hsome : ∀ fd fd', fd ≠ fd' → Fresh fd held → Fresh fd' held →
      Post (some (fd, fd')) (insert { fd := fd } (insert { fd := fd' } held))) :
    Ensures Ok share limit held createPair Post :=
  fun _ hnext ↦ ⟨hnext _ _ hnone, fun fd fd' hne hfresh hfresh' ↦
    ⟨hcard, hnext _ _ (hsome fd fd' hne hfresh hfresh')⟩⟩

theorem ensures_bindPort {fd : Option ℕ} {port : ℕ} {Post : Bool → Table → Prop}
    (hmine : ∀ n ∈ fd, ∃ d ∈ held, d.fd = n) (hfalse : Post false held)
    (htrue : ∀ n ∈ fd, { fd := n } ∈ held →
      Post true (insert { fd := n, port := some port } (held.erase { fd := n }))) :
    Ensures Ok share limit held (bindPort fd port) Post :=
  fun _ hnext ↦ ⟨hnext _ _ hfalse, fun n hn ↦
    ⟨hmine n hn, fun hmem ↦ hnext _ _ (htrue n hn hmem)⟩⟩

theorem ensures_close {fd : Option ℕ} {Post : Unit → Table → Prop}
    (hnone : fd = none → Post () held)
    (hsome : ∀ n ∈ fd, ∃ d ∈ held, d.fd = n ∧ Post () (held.erase d)) :
    Ensures Ok share limit held (close fd) Post := by
  intro next hnext
  refine ⟨fun hfd ↦ hnext _ _ (hnone hfd), fun n hn ↦ ?_⟩
  obtain ⟨d, hd, hfd, hpost⟩ := hsome n hn
  exact ⟨d, hd, hfd, hnext _ _ hpost⟩

theorem ensures_ask {Post : Bool → Table → Prop} (h : ∀ answer, Post answer held) :
    Ensures Ok share limit held ask Post := fun _ hnext answer ↦ hnext _ _ (h answer)

theorem ensures_fork {child : Thread Note} {Post : Unit → Table → Prop}
    (hchild : Safe Ok share share ∅ child) (h : Post () held) :
    Ensures Ok share limit held (fork child) Post := fun _ hnext ↦ ⟨hchild, hnext _ _ h⟩

theorem ensures_note {message : Note} {Post : Unit → Table → Prop} (hmessage : Ok message held)
    (h : Post () held) : Ensures Ok share limit held (note message) Post :=
  fun _ hnext ↦ ⟨hmessage, hnext _ _ h⟩

end Ensures

end SatipClient.Descriptors
