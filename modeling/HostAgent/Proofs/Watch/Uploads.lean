import HostAgent.Proofs.Host.Canonical
import HostAgent.Proofs.Watch.Convergence
import Mathlib.Data.List.Nodup

set_option autoImplicit false

/-! # Requests for diagnostics

A request is collected in a cycle in which the diagnostics domain is switched on and the published
request is another one than in the snapshot of the cycle before (`CycleDone.Collects`). The places
that the host has uploaded to are those of the requests collected so far
(`Loop.mem_uploads_run_iff`), none of them twice.

While the domain is on, every request is handled (`Loop.count_uploads_of_enabled`). In general
`uploaded_once_iff` says when it is: a request that was published while the domain was off is the
same as before when the domain is switched on, and nothing is ever collected for it
(`request_not_uploaded`).
-/

namespace HostAgent

/-! ## Uploads of a list of operations -/

namespace HostOperation

/-- An operation adds the place of its own request to the uploads, if it has one. -/
theorem mem_uploads_settle {op : HostOperation} {s : HostState} {url : String} :
    url ∈ (op.settle s).uploads
      ↔ url ∈ s.uploads ∨ ∃ request, op = .diagnostics request ∧ request.signedUrl = url := by
  by_cases h : op.Holds s
  · rw [settle_of_holds h]
    constructor
    · exact .inl
    · rintro (hmem | ⟨request, rfl, rfl⟩)
      · exact hmem
      · exact h
  · rw [settle_of_not_holds h]
    cases op with
    | addresses | accounts | cluster => simp [applyTo]
    | diagnostics request =>
        have hnew : request.signedUrl ∉ s.uploads := h
        simp [applyTo, hnew, eq_comm]

theorem mem_uploads_settleAll {ops : List HostOperation} {s : HostState} {url : String} :
    url ∈ (settleAll s ops).uploads
      ↔ url ∈ s.uploads ∨ ∃ request, .diagnostics request ∈ ops ∧ request.signedUrl = url := by
  induction ops generalizing s with
  | nil => simp [settleAll]
  | cons op ops ih =>
      have hrest := @ih (op.settle s)
      rw [mem_uploads_settle] at hrest
      refine hrest.trans ?_
      constructor
      · rintro ((hmem | ⟨request, rfl, hurl⟩) | ⟨request, hmem, hurl⟩)
        · exact .inl hmem
        · exact .inr ⟨request, List.mem_cons_self, hurl⟩
        · exact .inr ⟨request, List.mem_cons_of_mem op hmem, hurl⟩
      · rintro (hmem | ⟨request, hmem, hurl⟩)
        · exact .inl (.inl hmem)
        · rcases List.mem_cons.mp hmem with rfl | hmem
          · exact .inl (.inr ⟨request, rfl, hurl⟩)
          · exact .inr ⟨request, hmem, hurl⟩

end HostOperation

/-! ## Uploads of a cycle and of a run -/

theorem Diagnostics.attempts_domain (i : Inputs Snapshot) :
    (Diagnostics.domain i).attempts = (!isDisabled i && hasChanged i) := by
  show (isDisabled i == false && hasChanged i == true) = _
  rw [beq_false, beq_true]

/-- A request is a change if the snapshot before has another one, or none. -/
theorem Diagnostics.hasChanged_iff {i : Inputs Snapshot} {text : String}
    (h : DiagnosticsRequest.published? i.current = some text) :
    hasChanged i = true ↔ DiagnosticsRequest.published? i.previous ≠ some text := by
  show ((DiagnosticsRequest.published? i.current).isSome
    && DiagnosticsRequest.published? i.current != DiagnosticsRequest.published? i.previous) = true
      ↔ _
  rw [h, Option.isSome_some, Bool.true_and, bne_iff_ne]
  exact ne_comm

/-- Only the diagnostics domain asks for an upload, and only for a request that is due. -/
theorem Registry.diagnostics_mem_operations_iff {i : Inputs Snapshot}
    {request : DiagnosticsRequest} :
    HostOperation.diagnostics request ∈ operations i
      ↔ Diagnostics.isDisabled i = false ∧ Diagnostics.hasChanged i = true
        ∧ DiagnosticsRequest.due? i.current i.now = some request := by
  have hduty : (Duty.diagnostics i).domain.attempts = true
      ↔ Diagnostics.isDisabled i = false ∧ Diagnostics.hasChanged i = true := by
    show (Diagnostics.domain i).attempts = true ↔ _
    rw [Diagnostics.attempts_domain, Bool.and_eq_true, Bool.not_eq_true']
  rw [operations, Duty.mem_asked]
  constructor
  · rintro ⟨duty, hmem, hattempts, hasked⟩
    simp only [duties, List.mem_cons, List.not_mem_nil, or_false] at hmem
    rcases hmem with rfl | rfl | rfl | rfl
    · simp [Duty.addresses] at hasked
    · simp [Duty.accounts] at hasked
    · simp [Duty.cluster] at hasked
    · obtain ⟨hdisabled, hchanged⟩ := hduty.mp hattempts
      exact ⟨hdisabled, hchanged, by simpa [Duty.diagnostics] using hasked⟩
  · rintro ⟨hdisabled, hchanged, hdue⟩
    refine ⟨.diagnostics i, by simp [duties], hduty.mpr ⟨hdisabled, hchanged⟩, ?_⟩
    exact congrArg (Option.map HostOperation.diagnostics) hdue

/-- The cycle collects diagnostics for a request that names the given place. -/
def CycleDone.Collects (c : CycleDone) (url : String) : Prop :=
  Diagnostics.isDisabled c.inputs = false ∧ Diagnostics.hasChanged c.inputs = true
    ∧ ∃ request, DiagnosticsRequest.due? c.inputs.current c.inputs.now = some request
      ∧ request.signedUrl = url

namespace Loop

variable {path : String} {l : Loop} {o : Occasion} {url : String}

theorem mem_uploads_next_iff (hl : l.host.failing = []) (ho : o.toggles = []) :
    url ∈ (l.next path o).host.state.uploads
      ↔ url ∈ l.host.state.uploads ∨ (l.cycle path o).Collects url := by
  have hfailing : (l.hostAt o).failing = [] := by
    rw [hostAt, ho]
    exact hl
  have hoperations : l.operations path o = Registry.operations (l.cycle path o).inputs := by
    rw [operations, Host.admitted, hfailing]
    simp
  rw [state_next, hoperations, HostOperation.mem_uploads_settleAll]
  simp only [Registry.diagnostics_mem_operations_iff, CycleDone.Collects, exists_and_left,
    and_assoc]

/-- **The uploads are those of the requests collected so far.** -/
theorem mem_uploads_run_iff {occasions : List Occasion} (hl : l.host.failing = [])
    (ho : ∀ o ∈ occasions, o.toggles = []) :
    url ∈ (run path l occasions).host.state.uploads
      ↔ url ∈ l.host.state.uploads ∨ ∃ c ∈ history path l occasions, c.Collects url := by
  induction occasions generalizing l with
  | nil => simp [run, history]
  | cons o occasions ih =>
      have hfirst := ho o List.mem_cons_self
      have hrest := @ih (l.next path o) (failing_next path hl hfirst)
        fun o' ho' => ho o' (List.mem_cons_of_mem o ho')
      rw [mem_uploads_next_iff hl hfirst, or_assoc] at hrest
      refine hrest.trans ?_
      rw [history, List.exists_mem_cons_iff]

variable {text : String} {request : DiagnosticsRequest}

/-- If the snapshot seen last published `text`, the place that the request names was uploaded to. -/
def Serves (l : Loop) (text : String) (request : DiagnosticsRequest) : Prop :=
  DiagnosticsRequest.published? l.state.previous = some text →
    request.signedUrl ∈ l.host.state.uploads

/-- A cycle with the domain switched on keeps up with the requests. -/
theorem Serves.next (hs : l.Serves text request) (hl : l.host.failing = []) (ho : o.toggles = [])
    (hparse : DiagnosticsRequest.parse text = .ok request)
    (henabled : Diagnostics.isDisabled (l.cycle path o).inputs = false)
    (hfresh : hasExpired request.expireOn o.now = false) : (l.next path o).Serves text request := by
  intro hpublished
  have hcurrent : DiagnosticsRequest.published? o.snapshot = some text := hpublished
  rw [mem_uploads_next_iff hl ho]
  by_cases hsame : DiagnosticsRequest.published? l.state.previous = some text
  · exact .inl (hs hsame)
  · -- a request other than the last one is a change
    have hchanged : Diagnostics.hasChanged (l.cycle path o).inputs = true :=
      (Diagnostics.hasChanged_iff hcurrent).mpr hsame
    have hdue := DiagnosticsRequest.due?_eq_some_iff.mpr ⟨text, hcurrent, hparse, hfresh⟩
    exact .inr ⟨henabled, hchanged, request, hdue, rfl⟩

/-- So does a run with the domain switched on in all of its cycles. -/
theorem Serves.run {occasions : List Occasion} (hs : l.Serves text request)
    (hl : l.host.failing = []) (ho : ∀ o ∈ occasions, o.toggles = [])
    (hparse : DiagnosticsRequest.parse text = .ok request)
    (henabled : EnabledIn Diagnostics.isDisabled (history path l occasions))
    (hfresh : ∀ o ∈ occasions, hasExpired request.expireOn o.now = false) :
    (run path l occasions).Serves text request := by
  induction occasions generalizing l with
  | nil => exact hs
  | cons o occasions ih =>
      have hfirst : (l.next path o).Serves text request :=
        hs.next hl (ho o List.mem_cons_self) hparse (henabled _ List.mem_cons_self)
          (hfresh o List.mem_cons_self)
      exact ih hfirst (failing_next path hl (ho o List.mem_cons_self))
        (fun o' ho' => ho o' (List.mem_cons_of_mem o ho'))
        (fun c hc => henabled c (List.mem_cons_of_mem _ hc))
        fun o' ho' => hfresh o' (List.mem_cons_of_mem o ho')

theorem serves_fresh : ({} : Loop).Serves text request := fun h => nomatch h

/-- **While the domain is on, every request is handled exactly once**, unless it expires. -/
theorem count_uploads_of_enabled {occasions : List Occasion} (ho : ∀ o ∈ occasions, o.toggles = [])
    (hparse : DiagnosticsRequest.parse text = .ok request)
    (henabled : EnabledIn Diagnostics.isDisabled (history path {} occasions))
    (hfresh : ∀ o ∈ occasions, hasExpired request.expireOn o.now = false)
    (hpublished : DiagnosticsRequest.published? (run path {} occasions).state.previous
      = some text) :
    (run path {} occasions).host.state.uploads.count request.signedUrl = 1 := by
  have hserves := serves_fresh.run rfl ho hparse henabled hfresh
  have hnodup := (canonical_run path occasions canonical_fresh).uploads
  exact List.count_eq_one_of_mem hnodup (hserves hpublished)

end Loop

/-- **When a request is handled.** In every run of the agent on a fresh host without injected
failures, under any override files, no place is uploaded to twice. After a cycle with the
diagnostics domain switched on and a request that can be read and has not expired, the place that
the request names was uploaded to if and only if the snapshot of the cycle before published another
request, or diagnostics were collected for the place in an earlier cycle. -/
theorem uploaded_once_iff (path : String) (earlier : List Occasion) (o : Occasion)
    (h : ∀ o' ∈ earlier ++ [o], o'.toggles = []) :
    let l := Loop.run path {} earlier
    let done := l.cycle path o
    done.dispatched.host.state.uploads.Nodup
      ∧ ∀ text request, DiagnosticsRequest.published? o.snapshot = some text →
        DiagnosticsRequest.parse text = .ok request →
        hasExpired request.expireOn o.now = false →
        Diagnostics.isDisabled done.inputs = false →
        (done.dispatched.host.state.uploads.count request.signedUrl = 1 ↔
          DiagnosticsRequest.published? l.state.previous ≠ some text
            ∨ ∃ c ∈ Loop.history path {} earlier, c.Collects request.signedUrl) := by
  intro l done
  have hearlier : ∀ o' ∈ earlier, o'.toggles = [] := fun o' h' => h o' (List.mem_append_left _ h')
  have ho : o.toggles = [] := h o List.mem_concat_self
  have hl : l.host.failing = [] := Loop.failing_run path rfl hearlier
  have hnodup : done.dispatched.host.state.uploads.Nodup :=
    (Loop.canonical_next path o (Loop.canonical_run path earlier Loop.canonical_fresh)).uploads
  refine ⟨hnodup, fun text request hpublished hparse hfresh henabled => ?_⟩
  have hdue : DiagnosticsRequest.due? o.snapshot o.now = some request :=
    DiagnosticsRequest.due?_eq_some_iff.mpr ⟨text, hpublished, hparse, hfresh⟩
  have hchanged : Diagnostics.hasChanged done.inputs = true
      ↔ DiagnosticsRequest.published? l.state.previous ≠ some text :=
    Diagnostics.hasChanged_iff hpublished
  have hcollects : done.Collects request.signedUrl
      ↔ DiagnosticsRequest.published? l.state.previous ≠ some text := by
    rw [← hchanged]
    constructor
    · exact fun hcollects => hcollects.2.1
    · exact fun hchanged => ⟨henabled, hchanged, request, hdue, rfl⟩
  calc done.dispatched.host.state.uploads.count request.signedUrl = 1
      ↔ request.signedUrl ∈ done.dispatched.host.state.uploads := by
        constructor
        · exact fun hcount => List.count_pos_iff.mp (hcount ▸ Nat.one_pos)
        · exact List.count_eq_one_of_mem hnodup
    _ ↔ request.signedUrl ∈ l.host.state.uploads ∨ done.Collects request.signedUrl :=
        Loop.mem_uploads_next_iff hl ho
    _ ↔ _ := by
        rw [Loop.mem_uploads_run_iff rfl hearlier, hcollects, or_comm]
        simp [Host.fresh]

/-- A request to upload diagnostics. -/
def requestText : String := "\x7b\"signedUrl\":\"https://storage.example/up\"\x7d"

/-- A cycle for a machine with this request, the diagnostics switched on or off by an attribute. -/
def requestCycle (switch : String) (now : Instant) : Occasion where
  snapshot := {
    machine := {
      attributes := Dict.ofList [("enable-diagnostics", switch), ("diagnostics", requestText)] } }
  now := now

/-- The request is published, and withdrawn. -/
def withdrawnRequest : List Occasion :=
  [requestCycle "true" ⟨0, 0⟩, { snapshot := .empty, now := ⟨60, 0⟩ }]

/-- A request that is published again after a while was uploaded once. -/
theorem uploaded_once_of_request_again :
    (∀ o ∈ withdrawnRequest ++ [requestCycle "true" ⟨120, 0⟩], o.toggles = [])
      ∧ ((Loop.run "" {} withdrawnRequest).cycle "" (requestCycle "true" ⟨120, 0⟩)
        ).dispatched.host.state.uploads.count "https://storage.example/up" = 1 := by
  have h : ∀ o ∈ withdrawnRequest ++ [requestCycle "true" ⟨120, 0⟩], o.toggles = [] := by
    decide +kernel
  obtain ⟨-, hall⟩ := uploaded_once_iff "" withdrawnRequest (requestCycle "true" ⟨120, 0⟩) h
  have hiff := hall requestText ⟨"https://storage.example/up", none, false⟩ (by decide +kernel)
    (by decide +kernel) (by decide +kernel) (by decide +kernel)
  -- the snapshot without content stands between the two
  exact ⟨h, hiff.mpr (.inl (by decide +kernel))⟩

/-- **A request that was published before the domain was switched on is not handled.** Its first
cycle finds the domain switched off, its second one finds it switched on. -/
theorem request_not_uploaded :
    Diagnostics.isDisabled ((Loop.run "" {} [requestCycle "false" ⟨0, 0⟩]).cycle ""
        (requestCycle "true" ⟨60, 0⟩)).inputs = false
      ∧ DiagnosticsRequest.due? (requestCycle "true" ⟨60, 0⟩).snapshot ⟨60, 0⟩
        = some ⟨"https://storage.example/up", none, false⟩
      ∧ ((Loop.run "" {} [requestCycle "false" ⟨0, 0⟩]).cycle "" (requestCycle "true" ⟨60, 0⟩)
        ).dispatched.host.state.uploads.count "https://storage.example/up" = 0 := by
  decide +kernel

end HostAgent
