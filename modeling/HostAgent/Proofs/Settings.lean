import HostAgent.Proofs.Text.Reading
import HostAgent.Settings

set_option autoImplicit false

/-! # Which settings are accepted

Three of the variables can be wrong (`Settings.Variable`). Each of them is checked by a function of
its own, which takes the default if the variable is unset, takes what its text says if that is
allowed, and complains about the text if not (`Settings.Answers`). The checks follow one another up
to the first complaint. So settings are accepted if every variable is valid, and otherwise the fault
is about the first one that is not, whatever the later ones hold
(`Settings.ofLookup_accepts_valid`).
-/

namespace HostAgent.Settings

/-! ## Variables that can be wrong -/

/-- A text is an optional plus sign and ASCII digits, at least one, and `n` is their value, which
has sixty-four bits and is not below `least`. -/
def SaysNumber (least : Nat) (text : String) (n : Nat) : Prop :=
  Decimal.Denotes text.toList n ∧ least ≤ n ∧ n ≤ Nat.pow 2 64 - 1

/-- A text names a form of log lines. -/
def SaysFormat (text : String) (format : LogFormat) : Prop :=
  (text = "text" ∧ format = .text) ∨ (text = "json" ∧ format = .json)

/-- The variables that can be wrong. -/
inductive Variable
  | backoff
  | longPoll
  | logFormat
deriving DecidableEq, Repr

namespace Variable

/-- The name of a variable. -/
def name : Variable → String
  | backoff => "VMAGENT_BACKOFF_SECS"
  | longPoll => "VMAGENT_LONG_POLL_TIMEOUT_SECS"
  | logFormat => "VMAGENT_LOG_FORMAT"

/-- The texts that a variable may hold. -/
def Allows : Variable → String → Prop
  | backoff, text => ∃ n, SaysNumber 1 text n
  | longPoll, text => ∃ n, SaysNumber 0 text n
  | logFormat, text => ∃ format, SaysFormat text format

/-- A variable is unset or holds a text that it may hold. -/
def Valid (lookup : String → Option String) (v : Variable) : Prop :=
  ∀ text, lookup v.name = some text → v.Allows text

/-- The variables in the order in which they are checked. -/
def checked : List Variable := [backoff, longPoll, logFormat]

/-- The first of the variables that is not valid. -/
def IsFirstInvalid (lookup : String → Option String) (v : Variable) : Prop :=
  ∃ before after, checked = before ++ v :: after ∧ ¬v.Valid lookup
    ∧ ∀ earlier ∈ before, earlier.Valid lookup

/-- A fault names the variable, and the text that it holds unless that is a pause of no length. -/
def Complains (v : Variable) (text : String) (fault : Fault) : Prop :=
  (v = backoff ∧ Decimal.Denotes text.toList 0
      ∧ fault.summary = v.name ++ " must be at least 1")
    ∨ (¬(v = backoff ∧ Decimal.Denotes text.toList 0)
      ∧ fault.summary = "invalid " ++ v.name ++ " '" ++ text ++ "'")

end Variable

/-! ## One check -/

/-- A setting is the default if its variable is unset, and else what the variable says. -/
def TakenFrom {α : Type} (Says : String → α → Prop) (source : Option String) (default value : α) :
    Prop :=
  match source with
  | none => value = default
  | some text => Says text value

/-- What the check of a variable may answer. -/
inductive Answers {α : Type} (v : Variable) (Says : String → α → Prop) (source : Option String)
    (default : α) : Except Fault α → Prop
  | taken {value : α} (htaken : TakenFrom Says source default value) :
      Answers v Says source default (.ok value)
  | refused {text : String} {fault : Fault} (hsource : source = some text)
      (hnot : ∀ value, ¬Says text value) (hcomplains : v.Complains text fault) :
      Answers v Says source default (.error fault)

/-- The check of the pause between fetches. -/
def readBackoff (lookup : String → Option String) : Except Fault Nat :=
  (readNumber lookup Variable.backoff.name 5).bind fun secs =>
    if secs = 0 then .error .zeroBackoff else .ok secs

/-- The check of the form of log lines. -/
def readFormat (lookup : String → Option String) : Except Fault LogFormat :=
  match lookup Variable.logFormat.name with
  | none => .ok .text
  | some text =>
    if text = "text" then .ok .text
    else if text = "json" then .ok .json
    else .error (.unknownFormat text)

/-- The settings that come of what is read from the variables that can be wrong. -/
def assemble (lookup : String → Option String) (backoffSecs longPollTimeoutSecs : Nat)
    (logFormat : LogFormat) : Settings where
  metadataUrl := (lookup "VMAGENT_METADATA_URL").getD "http://169.254.169.254/computeMetadata/v1/"
  overridePath := (lookup "VMAGENT_OVERRIDE_PATH").getD "/etc/vmagent/instance_configs.cfg"
  backoffSecs
  longPollTimeoutSecs
  serialPort := (lookup "VMAGENT_SERIAL_PORT").filter fun port => !isBlankText port
  logLevel := (lookup "VMAGENT_LOG_LEVEL").getD "info"
  logFormat
  serviceName := (lookup "VMAGENT_SERVICE_NAME").getD "vm-agent"

/-- The checks follow one another. -/
theorem ofLookup_eq (lookup : String → Option String) :
    ofLookup lookup = (readBackoff lookup).bind fun backoffSecs =>
      (readNumber lookup Variable.longPoll.name 60).bind fun longPollTimeoutSecs =>
        (readFormat lookup).bind fun logFormat =>
          .ok (assemble lookup backoffSecs longPollTimeoutSecs logFormat) := by
  unfold ofLookup readBackoff readFormat
  simp only [Variable.name]
  cases readNumber lookup "VMAGENT_BACKOFF_SECS" 5 with
  | error fault => rfl
  | ok secs =>
      by_cases hzero : secs = 0
      · simp only [hzero]
        rfl
      · simp only [bind, Except.bind, hzero, if_false]
        cases readNumber lookup "VMAGENT_LONG_POLL_TIMEOUT_SECS" 60 with
        | error fault => rfl
        | ok wait =>
            cases lookup "VMAGENT_LOG_FORMAT" with
            | none => rfl
            | some text =>
                by_cases htext : text = "text"
                · subst htext
                  rfl
                · by_cases hjson : text = "json"
                  · subst hjson
                    rfl
                  · simp only [htext, hjson, if_false]
                    rfl

section

variable (lookup : String → Option String)

theorem readNumber_cases (name : String) (default : Nat) :
    (∃ n, readNumber lookup name default = .ok n
        ∧ TakenFrom (SaysNumber 0) (lookup name) default n)
      ∨ ∃ text cause, lookup name = some text ∧ (∀ n, ¬SaysNumber 0 text n)
        ∧ readNumber lookup name default = .error (.number name text cause) := by
  have hnumber : ∀ text n, Decimal.read Decimal.max64 text = .ok n ↔ SaysNumber 0 text n := by
    intro text n
    rw [SaysNumber, and_iff_right (Nat.zero_le n)]
    exact Decimal.readChars_eq_ok_iff
  unfold readNumber
  cases lookup name with
  | none => exact .inl ⟨default, rfl, rfl⟩
  | some text =>
      cases hread : Decimal.read Decimal.max64 text with
      | ok n => exact .inl ⟨n, by simp only [hread]; rfl, (hnumber text n).mp hread⟩
      | error cause =>
          refine .inr ⟨text, cause, rfl, fun n hn => ?_, by simp only [hread]; rfl⟩
          rw [(hnumber text n).mpr hn] at hread
          cases hread

theorem answers_backoff :
    Answers .backoff (SaysNumber 1) (lookup Variable.backoff.name) 5 (readBackoff lookup) := by
  unfold readBackoff
  rcases readNumber_cases lookup Variable.backoff.name 5 with
    ⟨n, hread, htaken⟩ | ⟨text, cause, hsource, hnot, hread⟩
  · rw [hread]
    show Answers _ _ _ _ (if n = 0 then _ else _)
    cases hsource : lookup Variable.backoff.name with
    | none =>
        rw [hsource] at htaken
        obtain rfl : n = 5 := htaken
        exact .taken rfl
    | some text =>
        rw [hsource] at htaken
        obtain ⟨hdenotes, -, hbound⟩ : SaysNumber 0 text n := htaken
        by_cases hzero : n = 0
        · -- no pause at all is no pause that the variable may say
          subst hzero
          refine .refused rfl (fun m hm => ?_) (.inl ⟨rfl, hdenotes, rfl⟩)
          have hm0 : m = 0 := Decimal.Denotes.unique hm.1 hdenotes
          have hpos := hm.2.1
          omega
        · rw [if_neg hzero]
          exact .taken ⟨hdenotes, Nat.one_le_iff_ne_zero.mpr hzero, hbound⟩
  · -- what is no number is not zero either, so the complaint is the one about the text
    rw [hread]
    refine .refused hsource (fun n hn => hnot n ⟨hn.1, Nat.zero_le n, hn.2.2⟩) (.inr ⟨?_, rfl⟩)
    exact fun hzero => hnot 0 ⟨hzero.2, Nat.le_refl 0, Nat.zero_le _⟩

theorem answers_longPoll :
    Answers .longPoll (SaysNumber 0) (lookup Variable.longPoll.name) 60
      (readNumber lookup Variable.longPoll.name 60) := by
  rcases readNumber_cases lookup Variable.longPoll.name 60 with
    ⟨n, hread, htaken⟩ | ⟨text, cause, hsource, hnot, hread⟩
  · rw [hread]
    exact .taken htaken
  · rw [hread]
    exact .refused hsource hnot (.inr ⟨fun h => absurd h.1 (by decide), rfl⟩)

theorem answers_logFormat :
    Answers .logFormat SaysFormat (lookup Variable.logFormat.name) .text (readFormat lookup) := by
  unfold readFormat
  cases hsource : lookup Variable.logFormat.name with
  | none => exact .taken rfl
  | some text =>
      by_cases htext : text = "text"
      · simp only [if_pos htext]
        exact .taken (.inl ⟨htext, rfl⟩)
      · by_cases hjson : text = "json"
        · simp only [if_neg htext, if_pos hjson]
          exact .taken (.inr ⟨hjson, rfl⟩)
        · simp only [if_neg htext, if_neg hjson]
          refine .refused rfl ?_ (.inr ⟨fun h => absurd h.1 (by decide), rfl⟩)
          intro format hformat
          exact hformat.elim (fun h => htext h.1) fun h => hjson h.1

end

section

variable {α : Type} {lookup : String → Option String} {v : Variable} {Says : String → α → Prop}
  {default value : α} {fault : Fault} (hallows : ∀ text, v.Allows text ↔ ∃ value, Says text value)
include hallows

theorem Answers.valid (h : Answers v Says (lookup v.name) default (.ok value)) :
    v.Valid lookup := by
  obtain ⟨htaken⟩ | _ := h
  intro text hsource
  rw [hsource] at htaken
  exact (hallows text).mpr ⟨value, htaken⟩

theorem Answers.complains (h : Answers v Says (lookup v.name) default (.error fault)) :
    ¬v.Valid lookup ∧ ∃ text, lookup v.name = some text ∧ v.Complains text fault := by
  obtain _ | ⟨hsource, hnot, hcomplains⟩ := h
  refine ⟨fun hvalid => ?_, _, hsource, hcomplains⟩
  obtain ⟨value, hvalue⟩ := (hallows _).mp (hvalid _ hsource)
  exact hnot value hvalue

end

theorem Answers.takenFrom {α : Type} {v : Variable} {Says : String → α → Prop}
    {source : Option String} {default value : α} (h : Answers v Says source default (.ok value)) :
    TakenFrom Says source default value := by
  obtain ⟨htaken⟩ | _ := h
  exact htaken

/-! ## All checks -/

/-- The settings are those that the variables say, and the defaults where they are unset. -/
structure IsReadFrom (lookup : String → Option String) (s : Settings) : Prop where
  metadataUrl : TakenFrom (· = ·) (lookup "VMAGENT_METADATA_URL")
    "http://169.254.169.254/computeMetadata/v1/" s.metadataUrl
  overridePath : TakenFrom (· = ·) (lookup "VMAGENT_OVERRIDE_PATH")
    "/etc/vmagent/instance_configs.cfg" s.overridePath
  backoff : TakenFrom (SaysNumber 1) (lookup "VMAGENT_BACKOFF_SECS") 5 s.backoffSecs
  backoff_pos : 0 < s.backoffSecs
  longPoll : TakenFrom (SaysNumber 0) (lookup "VMAGENT_LONG_POLL_TIMEOUT_SECS") 60
    s.longPollTimeoutSecs
  serialPort_eq_none_iff : s.serialPort = none ↔ lookup "VMAGENT_SERIAL_PORT" = none
    ∨ ∃ text, lookup "VMAGENT_SERIAL_PORT" = some text ∧ ∀ c ∈ text.toList, isBlank c = true
  serialPort_eq_some : ∀ port, s.serialPort = some port →
    lookup "VMAGENT_SERIAL_PORT" = some port
  logLevel : TakenFrom (· = ·) (lookup "VMAGENT_LOG_LEVEL") "info" s.logLevel
  logFormat : TakenFrom SaysFormat (lookup "VMAGENT_LOG_FORMAT") .text s.logFormat
  serviceName : TakenFrom (· = ·) (lookup "VMAGENT_SERVICE_NAME") "vm-agent" s.serviceName

theorem takenFrom_getD (source : Option String) (default : String) :
    TakenFrom (· = ·) source default (source.getD default) := by
  cases source with
  | none => rfl
  | some text => rfl

/-- A default of at least one keeps the number from being zero. -/
theorem TakenFrom.pos {source : Option String} {default n : Nat} (hdefault : 0 < default)
    (h : TakenFrom (SaysNumber 1) source default n) : 0 < n := by
  cases source with
  | none =>
      obtain rfl : n = default := h
      exact hdefault
  | some text =>
      obtain ⟨-, hleast, -⟩ : SaysNumber 1 text n := h
      exact hleast

theorem filter_isBlankText_eq_none_iff {source : Option String} :
    source.filter (fun port => !isBlankText port) = none
      ↔ source = none ∨ ∃ text, source = some text ∧ ∀ c ∈ text.toList, isBlank c = true := by
  cases source with
  | none => simp
  | some text => simp [Option.filter, isBlankText]

theorem isReadFrom_assemble {lookup : String → Option String} {backoffSecs wait : Nat}
    {format : LogFormat}
    (hbackoff : TakenFrom (SaysNumber 1) (lookup Variable.backoff.name) 5 backoffSecs)
    (hwait : TakenFrom (SaysNumber 0) (lookup Variable.longPoll.name) 60 wait)
    (hformat : TakenFrom SaysFormat (lookup Variable.logFormat.name) .text format) :
    (assemble lookup backoffSecs wait format).IsReadFrom lookup where
  metadataUrl := takenFrom_getD _ _
  overridePath := takenFrom_getD _ _
  backoff := hbackoff
  backoff_pos := hbackoff.pos (by decide)
  longPoll := hwait
  serialPort_eq_none_iff := filter_isBlankText_eq_none_iff
  serialPort_eq_some port h := (Option.filter_eq_some_iff.mp h).1
  logLevel := takenFrom_getD _ _
  logFormat := hformat
  serviceName := takenFrom_getD _ _

/-- Either all checks pass, or the first one that does not complains about its variable. -/
theorem ofLookup_cases (lookup : String → Option String) :
    (∃ s, ofLookup lookup = .ok s ∧ s.IsReadFrom lookup ∧ ∀ v : Variable, v.Valid lookup)
      ∨ ∃ fault v text, ofLookup lookup = .error fault ∧ Variable.IsFirstInvalid lookup v
        ∧ lookup v.name = some text ∧ v.Complains text fault := by
  have hbackoff := answers_backoff lookup
  have hlongPoll := answers_longPoll lookup
  have hlogFormat := answers_logFormat lookup
  rw [ofLookup_eq]
  -- where a check complains, the earlier ones have passed, so their variables are valid
  cases hb : readBackoff lookup with
  | error fault =>
      rw [hb] at hbackoff
      obtain ⟨hinvalid, text, hsource, hcomplains⟩ := hbackoff.complains fun _ => Iff.rfl
      exact .inr ⟨fault, .backoff, text, rfl, ⟨[], _, rfl, hinvalid, nofun⟩, hsource, hcomplains⟩
  | ok backoffSecs =>
      rw [hb] at hbackoff
      have hvalid := hbackoff.valid fun _ => Iff.rfl
      cases hp : readNumber lookup Variable.longPoll.name 60 with
      | error fault =>
          rw [hp] at hlongPoll
          obtain ⟨hinvalid, text, hsource, hcomplains⟩ := hlongPoll.complains fun _ => Iff.rfl
          refine .inr ⟨fault, .longPoll, text, rfl, ⟨[.backoff], _, rfl, hinvalid, ?_⟩, hsource,
            hcomplains⟩
          simpa using hvalid
      | ok wait =>
          rw [hp] at hlongPoll
          have hvalid' := hlongPoll.valid fun _ => Iff.rfl
          cases hf : readFormat lookup with
          | error fault =>
              rw [hf] at hlogFormat
              obtain ⟨hinvalid, text, hsource, hcomplains⟩ :=
                hlogFormat.complains fun _ => Iff.rfl
              refine .inr ⟨fault, .logFormat, text, rfl,
                ⟨[.backoff, .longPoll], _, rfl, hinvalid, ?_⟩, hsource, hcomplains⟩
              simpa using ⟨hvalid, hvalid'⟩
          | ok format =>
              rw [hf] at hlogFormat
              have hvalid'' := hlogFormat.valid fun _ => Iff.rfl
              refine .inl ⟨assemble lookup backoffSecs wait format, rfl,
                isReadFrom_assemble hbackoff.takenFrom hlongPoll.takenFrom hlogFormat.takenFrom,
                fun v => ?_⟩
              cases v with
              | backoff => exact hvalid
              | longPoll => exact hvalid'
              | logFormat => exact hvalid''

/-- **Settings are accepted exactly when every variable is valid.** Then they are what the variables
say, so that the pause between fetches is never zero. Otherwise the fault is about the first
variable that is not valid, whatever the later ones hold. -/
theorem ofLookup_accepts_valid (lookup : String → Option String) :
    ((∃ s, ofLookup lookup = .ok s) ↔ ∀ v : Variable, v.Valid lookup)
      ∧ (∀ s, ofLookup lookup = .ok s → s.IsReadFrom lookup)
      ∧ ∀ fault, ofLookup lookup = .error fault → ∃ v text, Variable.IsFirstInvalid lookup v
        ∧ lookup v.name = some text ∧ v.Complains text fault := by
  obtain ⟨s, hok, hread, hvalid⟩ | ⟨fault, v, text, herror, hfirst, hsource, hcomplains⟩ :=
    ofLookup_cases lookup
  · refine ⟨iff_of_true ⟨s, hok⟩ hvalid, fun s' hs' => ?_, fun fault herror => ?_⟩
    · obtain rfl := Except.ok.inj (hok.symm.trans hs')
      exact hread
    · rw [hok] at herror
      cases herror
  · refine ⟨iff_of_false ?_ ?_, fun s hs => ?_, fun fault' hfault' => ?_⟩
    · rintro ⟨s, hs⟩
      rw [herror] at hs
      cases hs
    · intro hvalid
      obtain ⟨-, -, -, hinvalid, -⟩ := hfirst
      exact hinvalid (hvalid v)
    · rw [herror] at hs
      cases hs
    · obtain rfl := Except.error.inj (herror.symm.trans hfault')
      exact ⟨v, text, hfirst, hsource, hcomplains⟩

/-- Variables with a pause that has a sign and leading zeros, the longest wait there is, and a port
of a blank beyond ASCII. -/
def oddVariables : String → Option String
  | "VMAGENT_BACKOFF_SECS" => some "+007"
  | "VMAGENT_LONG_POLL_TIMEOUT_SECS" => some "18446744073709551615"
  | "VMAGENT_SERIAL_PORT" => some "\u3000"
  | "VMAGENT_LOG_FORMAT" => some "json"
  | _ => none

/-- The same variables with a wait that is too long, before a form of log lines that is unknown. -/
def wrongVariables : String → Option String
  | "VMAGENT_LONG_POLL_TIMEOUT_SECS" => some "18446744073709551616"
  | "VMAGENT_LOG_FORMAT" => some "JSON"
  | name => oddVariables name

theorem ofLookup_of_odd_and_wrong_variables :
    (∃ s, ofLookup oddVariables = .ok s ∧ s.IsReadFrom oddVariables ∧ s.backoffSecs = 7
        ∧ s.longPollTimeoutSecs = Nat.pow 2 64 - 1 ∧ s.serialPort = none ∧ s.logFormat = .json)
      ∧ ∃ fault, ofLookup wrongVariables = .error fault
        ∧ (∃ v text, Variable.IsFirstInvalid wrongVariables v
          ∧ wrongVariables v.name = some text ∧ v.Complains text fault)
        ∧ fault.summary
          = "invalid VMAGENT_LONG_POLL_TIMEOUT_SECS '18446744073709551616'" := by
  have hok : ofLookup oddVariables
      = .ok (assemble oddVariables 7 18446744073709551615 .json) := rfl
  have herror : ofLookup wrongVariables = .error (.number "VMAGENT_LONG_POLL_TIMEOUT_SECS"
      "18446744073709551616" .tooLarge) := rfl
  obtain ⟨-, hread, -⟩ := ofLookup_accepts_valid oddVariables
  obtain ⟨-, -, hfirst⟩ := ofLookup_accepts_valid wrongVariables
  exact ⟨⟨_, hok, hread _ hok, rfl, rfl, by decide +kernel, rfl⟩, _, herror, hfirst _ herror, rfl⟩

end HostAgent.Settings
