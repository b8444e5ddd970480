import HostAgent.Service.Control

set_option autoImplicit false

/-! # Commands in a row

A row of commands is given up to and including the first one that fails. `Service.Issues` says which
commands these are and how each is answered, for any row and any answers, and every row that the
steps of an action hold is given in this way (`Service.exists_issues_takeAll`).
-/

namespace HostAgent.Service

/-! ## What is given -/

/-- A command was started and ended with success. -/
def Succeeds (result : Launch) : Prop := ∃ reply, result = .ok reply ∧ reply.ending = .exited 0

/-- The commands `issued` are those of the commands `listed` up to and including the first one that
fails. They are answered in turn from number `n` on. -/
structure Issues (replies : Nat → Launch) (n : Nat) (listed : List (List String))
    (issued : List (List String × Launch)) : Prop where
  of_listed : issued.map (·.1) <+: listed
  answered : ∀ (i : Nat) (arguments : List String) (result : Launch),
    issued[i]? = some (arguments, result) → result = launch arguments (replies (n + i))
  succeeded : ∀ (i : Nat) (arguments : List String) (result : Launch),
    issued[i]? = some (arguments, result) → i + 1 < issued.length → Succeeds result
  ended : issued.map (·.1) = listed ∨ ∃ last, issued.getLast? = some last ∧ ¬Succeeds last.2

namespace Issues

variable {replies : Nat → Launch} {n : Nat} {listed : List (List String)}
  {issued : List (List String × Launch)} {arguments : List String}

theorem nil (replies : Nat → Launch) (n : Nat) : Issues replies n [] [] where
  of_listed := List.nil_prefix
  answered _ _ _ h := nomatch h
  succeeded _ _ _ h := nomatch h
  ended := .inl rfl

/-- No command is given after one that failed. -/
theorem single (listed : List (List String))
    (hfails : ¬Succeeds (launch arguments (replies n))) :
    Issues replies n (arguments :: listed) [(arguments, launch arguments (replies n))] where
  of_listed := List.cons_prefix_cons.mpr ⟨rfl, List.nil_prefix⟩
  answered i _ _ h := by
    cases i with
    | zero =>
        obtain ⟨rfl, rfl⟩ := Prod.mk.inj (Option.some.inj h)
        rfl
    | succ i => cases h
  succeeded i _ _ _ hlt := absurd hlt (by simp)
  ended := .inr ⟨_, rfl, hfails⟩

/-- Commands after one that succeeded. -/
theorem cons (h : Issues replies (n + 1) listed issued)
    (hfirst : Succeeds (launch arguments (replies n))) :
    Issues replies n (arguments :: listed)
      ((arguments, launch arguments (replies n)) :: issued) where
  of_listed := List.cons_prefix_cons.mpr ⟨rfl, h.of_listed⟩
  answered i a result hi := by
    cases i with
    | zero =>
        obtain ⟨rfl, rfl⟩ := Prod.mk.inj (Option.some.inj hi)
        rfl
    | succ i =>
        rw [h.answered i a result hi]
        congr 2
        omega
  succeeded i a result hi hlt := by
    cases i with
    | zero =>
        obtain ⟨rfl, rfl⟩ := Prod.mk.inj (Option.some.inj hi)
        exact hfirst
    | succ i => exact h.succeeded i a result hi (Nat.lt_of_succ_lt_succ hlt)
  ended := by
    rcases h.ended with hall | ⟨last, hlast, hfails⟩
    · exact .inl (by rw [List.map_cons, hall])
    · exact .inr ⟨last, by rw [List.getLast?_cons, hlast]; rfl, hfails⟩

/-- If all that were given succeed, then none has been left out. -/
theorem map_eq_of_all (h : Issues replies n listed issued) (hall : ∀ e ∈ issued, Succeeds e.2) :
    issued.map (·.1) = listed := by
  rcases h.ended with hmap | ⟨last, hlast, hfails⟩
  · exact hmap
  · exact absurd (hall last (List.mem_of_getLast? hlast)) hfails

end Issues

/-! ## How it is given -/

/-- An action after further commands. -/
def Progress.after (p : Progress) (issued : List (List String × Launch)) : Progress :=
  { p with commands := p.commands ++ issued }

@[simp]
theorem Progress.after_nil (p : Progress) : p.after [] = p := by
  rw [after, List.append_nil]

@[simp]
theorem Progress.after_after (p : Progress) (issued others : List (List String × Launch)) :
    (p.after issued).after others = p.after (issued ++ others) := by
  rw [after, after, after, List.append_assoc]

theorem succeeds_ok_iff (reply : CommandReply) : Succeeds (.ok reply) ↔ reply.succeeded = true := by
  rw [CommandReply.succeeded, beq_iff_eq]
  refine ⟨fun ⟨other, hother, hending⟩ => ?_, fun hending => ⟨reply, rfl, hending⟩⟩
  obtain rfl := Except.ok.inj hother
  exact hending

section

variable (s : Service) (replies : Nat → Launch)

theorem take_command_of_succeeds {p : Progress} {arguments : List String}
    (h : Succeeds (launch arguments (replies p.commands.length))) :
    s.take replies p (.command arguments)
      = (p.after [(arguments, launch arguments (replies p.commands.length))], none) := by
  obtain ⟨reply, hreply, -⟩ := id h
  rw [hreply] at h ⊢
  simp only [take, give, hreply]
  exact if_pos ((succeeds_ok_iff reply).mp h)

theorem exists_take_command_eq_fault {p : Progress} {arguments : List String}
    (h : ¬Succeeds (launch arguments (replies p.commands.length))) :
    ∃ fault, s.take replies p (.command arguments)
      = (p.after [(arguments, launch arguments (replies p.commands.length))], some fault) := by
  simp only [take, give]
  cases hreply : launch arguments (replies p.commands.length) with
  | error cause => exact ⟨_, rfl⟩
  | ok reply =>
      rw [hreply] at h
      exact ⟨_, if_neg (mt (succeeds_ok_iff reply).mpr h)⟩

theorem takeAll_cons_of_none {p p' : Progress} {step : Step} (rest : List Step)
    (h : s.take replies p step = (p', none)) :
    s.takeAll replies p (step :: rest) = s.takeAll replies p' rest := by
  rw [takeAll, h]

theorem takeAll_cons_of_some {p p' : Progress} {step : Step} {fault : Fault} (rest : List Step)
    (h : s.take replies p step = (p', some fault)) :
    s.takeAll replies p (step :: rest) = (p', some fault) := by
  rw [takeAll, h]

/-- **Commands in a row are given up to the first that fails**, and succeed together if each of
them does. They touch no file. -/
theorem exists_issues_takeAll (p : Progress) (lines : List (List String)) :
    ∃ issued, (s.takeAll replies p (lines.map .command)).1 = p.after issued
      ∧ Issues replies p.commands.length lines issued
      ∧ ((s.takeAll replies p (lines.map .command)).2 = none ↔ ∀ e ∈ issued, Succeeds e.2) := by
  induction lines generalizing p with
  | nil => exact ⟨[], p.after_nil.symm, .nil .., iff_of_true rfl nofun⟩
  | cons arguments rest ih =>
      rw [List.map_cons]
      by_cases hfirst : Succeeds (launch arguments (replies p.commands.length))
      · rw [takeAll_cons_of_none s replies _ (take_command_of_succeeds s replies hfirst)]
        obtain ⟨issued, hissued, hissues, hnone⟩ :=
          ih (p.after [(arguments, launch arguments (replies p.commands.length))])
        rw [Progress.after_after] at hissued
        rw [Progress.after, List.length_append] at hissues
        refine ⟨_, hissued, hissues.cons hfirst, ?_⟩
        rw [hnone, List.singleton_append, List.forall_mem_cons, and_iff_right hfirst]
      · obtain ⟨fault, htake⟩ := exists_take_command_eq_fault s replies hfirst
        rw [takeAll_cons_of_some s replies _ htake]
        refine ⟨_, rfl, .single _ hfirst, iff_of_false nofun fun hall => hfirst ?_⟩
        exact hall _ (List.mem_singleton.mpr rfl)

/-- Before the first command of an action, the commands that follow are all it gives. -/
theorem issues_takeAll {p : Progress} (h : p.commands = []) (lines : List (List String)) :
    let done := s.takeAll replies p (lines.map .command)
    done.1.folder = p.folder ∧ Issues replies 0 lines done.1.commands
      ∧ (done.2 = none ↔ ∀ e ∈ done.1.commands, Succeeds e.2) := by
  intro done
  obtain ⟨issued, hdone, hissues, hnone⟩ := exists_issues_takeAll s replies p lines
  have hfolder : done.1.folder = p.folder := by rw [hdone, Progress.after]
  have hissued : done.1.commands = issued := by
    rw [hdone, Progress.after, h, List.nil_append]
  rw [h] at hissues
  rw [hissued]
  exact ⟨hfolder, hissues, hnone⟩

end

end HostAgent.Service
