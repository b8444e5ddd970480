import HostAgent.Fetch.Client
import HostAgent.Proofs.Snapshot
import HostAgent.Proofs.Url.Form

set_option autoImplicit false

/-! # The tag over a session

A session is a sequence of calls of one client, each of them answered in any way whatever. The tag
that the client has after a call is the one that the latest response brought, or the one it began
with (`Client.tag_follows_latest_snapshot`); and it is what the next request tells the service.

What a response has to be to bring a tag (`Response.Brings`) is said without a word of how the
client goes about it: the client reads the header before it knows whether there is a snapshot in
the body, but the header counts only if there is one. There is one in every body that publishes a
snapshot (`Response.brings_of_publishedAs`).
-/

namespace HostAgent

/-! ## Responses -/

namespace Response

/-- The value of the first header of a name: those before it have other names. -/
def HasFirst (r : Response) (name : String) (value : List UInt8) : Prop :=
  ∃ before after, r.headers = before ++ (name, value) :: after ∧ ∀ h ∈ before, h.1 ≠ name

/-- Whether a byte of a header is a tab or an ASCII character that is no control. -/
def IsPrintable (b : UInt8) : Prop := b.toNat = 0x09 ∨ (0x20 ≤ b.toNat ∧ b.toNat ≤ 0x7E)

/-- A response that brings a snapshot and a tag for it. -/
structure Brings (r : Response) (tag : String) : Prop where
  successful : 200 ≤ r.status ∧ r.status < 300
  snapshot : ∃ s, Snapshot.parseBytes r.body = .ok s
  header : ∃ value, r.HasFirst "etag" value ∧ (∀ b ∈ value, IsPrintable b)
    ∧ tag.toList.map Char.toNat = value.map UInt8.toNat

theorem header?_eq_some_iff {r : Response} {name : String} {value : List UInt8} :
    r.header? name = some value ↔ r.HasFirst name value := by
  rw [header?, Option.map_eq_some_iff]
  constructor
  · rintro ⟨⟨name', value'⟩, hfind, rfl⟩
    obtain ⟨hname, before, after, hheaders, hbefore⟩ := List.find?_eq_some_iff_append.mp hfind
    obtain rfl : name' = name := eq_of_beq hname
    exact ⟨before, after, hheaders, fun h hh => by simpa using hbefore h hh⟩
  · rintro ⟨before, after, hheaders, hbefore⟩
    refine ⟨(name, value), List.find?_eq_some_iff_append.mpr ?_, rfl⟩
    exact ⟨beq_self_eq_true name, before, after, hheaders, fun h hh => by simpa using hbefore h hh⟩

theorem header?_eq_none_iff {r : Response} {name : String} :
    r.header? name = none ↔ ∀ h ∈ r.headers, h.1 ≠ name := by
  rw [header?, Option.map_eq_none_iff, List.find?_eq_none]
  exact forall₂_congr fun h _ => by rw [beq_iff_eq]

theorem isReadable_iff {b : UInt8} : isReadable b = true ↔ IsPrintable b := by
  have htab : b = 0x09 ↔ b.toNat = 0x09 := UInt8.toNat_inj.symm
  rw [isReadable, Bool.or_eq_true, beq_iff_eq, htab, Bool.and_eq_true, decide_eq_true_eq,
    decide_eq_true_eq]
  rfl

/-- A tag is the text whose characters have the codes of the bytes. -/
theorem eq_ofList_charOf_iff {tag : String} {value : List UInt8}
    (hvalue : ∀ b ∈ value, IsPrintable b) :
    String.ofList (value.map Percent.charOf) = tag
      ↔ tag.toList.map Char.toNat = value.map UInt8.toNat := by
  have hcodes : (value.map Percent.charOf).map Char.toNat = value.map UInt8.toNat := by
    rw [List.map_map]
    refine List.map_congr_left fun b hb => Percent.toNat_charOf ?_
    rcases hvalue b hb with h | h <;> omega
  have hinjective : Function.Injective (List.map Char.toNat) := by
    refine List.map_injective_iff.mpr fun c d h => ?_
    rw [← Char.ofNat_toNat c, ← Char.ofNat_toNat d, h]
  constructor
  · rintro rfl
    rw [String.toList_ofList, hcodes]
  · intro h
    rw [← hcodes] at h
    rw [← hinjective h, String.ofList_toList]

theorem tag?_eq_some_iff {r : Response} {tag : String} :
    r.tag? = some tag ↔ ∃ value, r.HasFirst "etag" value ∧ (∀ b ∈ value, IsPrintable b)
      ∧ tag.toList.map Char.toNat = value.map UInt8.toNat := by
  rw [tag?]
  cases hheader : r.header? "etag" with
  | none =>
      refine ⟨fun h => absurd h (by simp), ?_⟩
      rintro ⟨value, hvalue, -⟩
      rw [← header?_eq_some_iff, hheader] at hvalue
      exact absurd hvalue (by simp)
  | some value =>
      have hfirst : ∀ value', r.HasFirst "etag" value' ↔ value = value' := by
        intro value'
        rw [← header?_eq_some_iff, hheader, Option.some_inj]
      by_cases hreadable : value.all isReadable = true
      · have hvalue : ∀ b ∈ value, IsPrintable b := fun b hb =>
          isReadable_iff.mp (List.all_eq_true.mp hreadable b hb)
        simp only [if_pos hreadable, Option.some_inj, hfirst, eq_ofList_charOf_iff hvalue]
        exact ⟨fun h => ⟨value, rfl, hvalue, h⟩, fun ⟨_, heq, _, h⟩ => heq ▸ h⟩
      · simp only [if_neg hreadable, hfirst]
        refine ⟨fun h => absurd h (by simp), ?_⟩
        rintro ⟨_, rfl, hvalue, -⟩
        exact absurd (List.all_eq_true.mpr fun b hb => isReadable_iff.mpr (hvalue b hb)) hreadable

theorem succeeded_iff {r : Response} : r.succeeded = true ↔ 200 ≤ r.status ∧ r.status < 300 := by
  rw [succeeded, Bool.and_eq_true, decide_eq_true_eq, decide_eq_true_eq]

/-- A response is read as a snapshot if its status and its body say so. -/
theorem read_eq_ok_iff {r : Response} {s : Snapshot} :
    r.read = .ok s ↔ (200 ≤ r.status ∧ r.status < 300) ∧ Snapshot.parseBytes r.body = .ok s := by
  rw [read, ← succeeded_iff]
  by_cases hs : r.succeeded = true
  · rw [if_pos hs]
    cases hbody : Snapshot.parseBytes r.body with
    | ok s' => simp [hs]
    | error fault => simp
  · rw [if_neg hs]
    simp [hs]

/-- The client moves its tag exactly for the responses that bring one. -/
theorem brings_iff {r : Response} {tag : String} :
    r.Brings tag ↔ (∃ s, r.read = .ok s) ∧ r.tag? = some tag := by
  simp only [read_eq_ok_iff, exists_and_left, tag?_eq_some_iff]
  exact ⟨fun h => ⟨⟨h.successful, h.snapshot⟩, h.header⟩, fun h => ⟨h.1.1, h.1.2, h.2⟩⟩

/-- A body that publishes a snapshot has a snapshot in it. -/
theorem brings_of_publishedAs {r : Response} {s : Snapshot} {text tag : String}
    {value : List UInt8} (hstatus : 200 ≤ r.status ∧ r.status < 300) (htext : s.PublishedAs text)
    (hbody : r.body = Utf8.encode text) (hfirst : r.HasFirst "etag" value)
    (hvalue : ∀ b ∈ value, IsPrintable b)
    (htag : tag.toList.map Char.toNat = value.map UInt8.toNat) : r.Brings tag where
  successful := hstatus
  snapshot := ⟨s, hbody ▸ Snapshot.parseBytes_of_publishedAs htext⟩
  header := ⟨value, hfirst, hvalue, htag⟩

end Response

/-- Why an answer brings no tag: there is no response; its status tells of a failure; there is no
snapshot in it; or there is no tag, or none that can be read, to the snapshot. -/
inductive Untagged : Except NoResponse Response → Prop
  | unanswered (n : NoResponse) : Untagged (.error n)
  | refused {r : Response} : ¬(200 ≤ r.status ∧ r.status < 300) → Untagged (.ok r)
  | undecoded {r : Response} {fault : String} : Snapshot.parseBytes r.body = .error fault →
      Untagged (.ok r)
  | missing {r : Response} : (∀ h ∈ r.headers, h.1 ≠ "etag") → Untagged (.ok r)
  | unreadable {r : Response} {value : List UInt8} : r.HasFirst "etag" value →
      (∃ b ∈ value, ¬Response.IsPrintable b) → Untagged (.ok r)

/-! ## Calls -/

/-- A call of a client: the client as the call finds it, and how its request is answered. -/
structure Call where
  client : Client
  exchange : Exchange

namespace Call

/-- What is answered to a call. -/
def answer (c : Call) : Except NoResponse Response := c.client.answer c.exchange

/-- The client after a call. -/
def after (c : Call) : Client := (c.client.fetch c.exchange).1

/-- Whether the response to a call brings a tag. -/
def Brings (c : Call) (tag : String) : Prop := ∃ r, c.answer = .ok r ∧ r.Brings tag

/-- **A tag that a response brings is the tag after the call.** -/
theorem after_of_brings {c : Call} {tag : String} (h : c.Brings tag) :
    c.after = { c.client with tag } := by
  obtain ⟨r, hanswer, hr⟩ := h
  obtain ⟨⟨s, hs⟩, htag⟩ := Response.brings_iff.mp hr
  rw [after, Client.fetch, show c.client.answer c.exchange = .ok r from hanswer, Client.receive, hs]
  show { c.client with tag := r.tag?.getD c.client.tag } = { c.client with tag }
  rw [htag, Option.getD_some]

/-- **Without a tag that is brought a call leaves the client as it was.** -/
theorem after_of_not_brings {c : Call} (h : ¬∃ tag, c.Brings tag) : c.after = c.client := by
  rw [after, Client.fetch]
  cases hanswer : c.client.answer c.exchange with
  | error n => rfl
  | ok r =>
      rw [Client.receive]
      cases hs : r.read with
      | error e => rfl
      | ok s =>
          cases htag : r.tag? with
          | none => rfl
          | some tag => exact absurd ⟨tag, r, hanswer, Response.brings_iff.mpr ⟨⟨s, hs⟩, htag⟩⟩ h

theorem not_brings_of_untagged {c : Call} (h : Untagged c.answer) : ¬∃ tag, c.Brings tag := by
  rintro ⟨tag, r, hanswer, hr⟩
  rw [hanswer] at h
  obtain ⟨value, hvalue, hprintable, -⟩ := hr.header
  cases h with
  | refused hstatus => exact hstatus hr.successful
  | undecoded hbody =>
      obtain ⟨s, hs⟩ := hr.snapshot
      rw [hbody] at hs
      cases hs
  | missing hheaders =>
      rw [← Response.header?_eq_none_iff] at hheaders
      rw [← Response.header?_eq_some_iff, hheaders] at hvalue
      cases hvalue
  | unreadable hvalue' hbroken =>
      rw [← Response.header?_eq_some_iff] at hvalue hvalue'
      rw [hvalue, Option.some_inj] at hvalue'
      obtain ⟨b, hb, hunprintable⟩ := hbroken
      exact hunprintable (hprintable b (hvalue' ▸ hb))

end Call

/-! ## Requests -/

theorem Url.parameters_withoutCredentials (u : Url) :
    u.withoutCredentials.parameters = u.parameters := by
  rw [Url.withoutCredentials]
  split <;> rfl

namespace Client

/-- Behind conditions that keep a request from being made stands the request. -/
theorem eq_of_guarded {p q r : Prop} [Decidable p] [Decidable q] [Decidable r]
    {e e' e'' : NoResponse} {made request : Request}
    (h : (if p then .error e else if q then .error e' else if r then .error e'' else .ok made
      : Except NoResponse Request) = .ok request) : made = request := by
  by_cases hp : p
  · rw [if_pos hp] at h
    cases h
  rw [if_neg hp] at h
  by_cases hq : q
  · rw [if_pos hq] at h
    cases h
  rw [if_neg hq] at h
  by_cases hr : r
  · rw [if_pos hr] at h
    cases h
  rw [if_neg hr] at h
  exact Except.ok.inj h

/-- A request asks what the address of the client names, and tells the service the parameters of
the client behind those of the address. -/
theorem parameters_of_request {c : Client} {request : Request} (h : c.request = .ok request) :
    ∃ base, Url.read c.url = .ok base
      ∧ request.url.parameters = base.parameters ++ c.parameters := by
  rw [Client.request] at h
  cases hbase : Url.read c.url with
  | error fault =>
      rw [hbase] at h
      cases h
  | ok base =>
      simp only [hbase] at h
      have hurl := (eq_of_guarded h).symm
      refine ⟨base, rfl, ?_⟩
      rw [hurl]
      exact (Url.parameters_withParameters _ _).trans
        (congrArg (· ++ c.parameters) (Url.parameters_withoutCredentials base))

theorem answer_of_request {c : Client} {request : Request} (h : c.request = .ok request)
    (exchange : Exchange) : c.answer exchange = exchange request := by
  rw [answer, h]
  rfl

/-! ## Sessions -/

/-- The calls of a client, each of them finding the client as the one before it left it. -/
def session (c : Client) : List Exchange → List Call
  | [] => []
  | exchange :: exchanges =>
    let call : Call := ⟨c, exchange⟩
    call :: session call.after exchanges

theorem map_exchange_session (c : Client) (exchanges : List Exchange) :
    (c.session exchanges).map Call.exchange = exchanges := by
  induction exchanges generalizing c with
  | nil => rfl
  | cons exchange exchanges ih => rw [session, List.map_cons, ih]

end Client

/-- The tag that the latest of some calls has brought, or the initial one if none has. -/
def LatestTag (initial : String) (calls : List Call) (tag : String) : Prop :=
  (∃ before latest after, calls = before ++ latest :: after ∧ latest.Brings tag
      ∧ ∀ call ∈ after, ¬∃ tag', call.Brings tag')
    ∨ (tag = initial ∧ ∀ call ∈ calls, ¬∃ tag', call.Brings tag')

/-- A call before the others counts only if none of them brings a tag. -/
theorem LatestTag.cons {first : Call} {calls : List Call} {tag : String}
    (h : LatestTag first.after.tag calls tag) :
    LatestTag first.client.tag (first :: calls) tag := by
  rcases h with ⟨before, latest, after, rfl, hlatest, hafter⟩ | ⟨rfl, hnone⟩
  · exact .inl ⟨first :: before, latest, after, rfl, hlatest, hafter⟩
  · by_cases hfirst : ∃ tag', first.Brings tag'
    · obtain ⟨tag', htag'⟩ := hfirst
      rw [Call.after_of_brings htag']
      exact .inl ⟨[], first, calls, rfl, htag', hnone⟩
    · rw [Call.after_of_not_brings hfirst]
      exact .inr ⟨rfl, List.forall_mem_cons.mpr ⟨hfirst, hnone⟩⟩

namespace Client

/-- Over a session the address and the length of a poll stay as they are, and the tag is that of
the latest call that has brought one. -/
theorem tag_session (c : Client) (exchanges : List Exchange) {earlier later : List Call}
    {call : Call} (h : c.session exchanges = earlier ++ call :: later) :
    call.client.url = c.url ∧ call.client.pollSecs = c.pollSecs
      ∧ LatestTag c.tag (earlier ++ [call]) call.after.tag := by
  induction earlier generalizing c exchanges with
  | nil =>
      cases exchanges with
      | nil => cases h
      | cons exchange exchanges =>
          rw [session, List.nil_append, List.cons.injEq] at h
          obtain ⟨rfl, -⟩ := h
          exact ⟨rfl, rfl, LatestTag.cons (.inr ⟨rfl, fun _ hmem => absurd hmem List.not_mem_nil⟩)⟩
  | cons first earlier ih =>
      cases exchanges with
      | nil => cases h
      | cons exchange exchanges =>
          rw [session, List.cons_append, List.cons.injEq] at h
          obtain ⟨rfl, hrest⟩ := h
          obtain ⟨hurl, hpoll, htag⟩ := ih _ _ hrest
          have hkept : (⟨c, exchange⟩ : Call).after.url = c.url
              ∧ (⟨c, exchange⟩ : Call).after.pollSecs = c.pollSecs := by
            by_cases hbrings : ∃ tag, (⟨c, exchange⟩ : Call).Brings tag
            · obtain ⟨tag, htag⟩ := hbrings
              rw [Call.after_of_brings htag]
              exact ⟨rfl, rfl⟩
            · rw [Call.after_of_not_brings hbrings]
              exact ⟨rfl, rfl⟩
          exact ⟨hurl.trans hkept.1, hpoll.trans hkept.2, LatestTag.cons htag⟩

/-- **The tag follows the latest snapshot, and the requests tell it.** In a session of a client that
begins without a tag, the tag after each call is the one brought by the latest response that brought
a snapshot and a tag that can be read, up to that call, or `NONE` if there was none. Every other
answer leaves the client exactly as it was; but a response that publishes a snapshot, in whatever
text, does bring the tag that it has. The request of each call tells the service the tag from
before the call: read back from the query, it is the last parameter. -/
theorem tag_follows_latest_snapshot (url : String) (pollSecs : Nat) (exchanges : List Exchange) :
    let calls := Client.session { url, pollSecs } exchanges
    calls.map Call.exchange = exchanges
      ∧ ∀ earlier call later, calls = earlier ++ call :: later →
        LatestTag "NONE" (earlier ++ [call]) call.after.tag
          ∧ (Untagged call.answer → call.after = call.client)
          ∧ (∀ (r : Response) (s : Snapshot) (text tag : String) (value : List UInt8),
            call.answer = .ok r → (200 ≤ r.status ∧ r.status < 300) → s.PublishedAs text →
            r.body = Utf8.encode text → r.HasFirst "etag" value →
            (∀ b ∈ value, Response.IsPrintable b) →
            tag.toList.map Char.toNat = value.map UInt8.toNat →
              call.after = { call.client with tag })
          ∧ ∀ request, call.client.request = .ok request →
            call.answer = call.exchange request
              ∧ ∃ base, Url.read url = .ok base
                ∧ request.url.parameters = base.parameters ++
                  [("recursive", "true"), ("alt", "json"), ("wait_for_change", "true"),
                    ("timeout_sec", toString pollSecs), ("last_etag", call.client.tag)] := by
  intro calls
  refine ⟨map_exchange_session _ _, fun earlier call later h => ?_⟩
  obtain ⟨hurl, hpoll, htag⟩ := tag_session _ _ h
  refine ⟨htag, fun huntagged => ?_, ?_, fun request hrequest => ?_⟩
  · exact Call.after_of_not_brings (Call.not_brings_of_untagged huntagged)
  · intro r s text tag value hanswer hstatus htext hbody hfirst hvalue hcodes
    exact Call.after_of_brings
      ⟨r, hanswer, Response.brings_of_publishedAs hstatus htext hbody hfirst hvalue hcodes⟩
  · obtain ⟨base, hbase, hparameters⟩ := parameters_of_request hrequest
    rw [hurl] at hbase
    rw [Client.parameters, hpoll] at hparameters
    exact ⟨answer_of_request hrequest _, base, hbase, hparameters⟩

/-- A client with a tag that holds marks of a query. -/
def taggedClient : Client := { url := "http://[::1]/?x=1", pollSecs := 60, tag := "7 &+" }

/-- The call that brings the tag. The snapshot says nothing, and in a text that nobody asks for it
has a byte that belongs to no character. -/
def taggingCall : Call :=
  ⟨{ taggedClient with tag := "NONE" }, fun _ => .ok ⟨200, [("etag", [0x37, 0x20, 0x26, 0x2B])],
    "\x7b\"x\":\"".toUTF8.toList ++ [0xFF] ++ "\"\x7d".toUTF8.toList⟩⟩

/-- A call that is refused for such a byte in a text that it asks for, with another tag. -/
def refusedCall : Call :=
  ⟨taggedClient, fun _ => .ok ⟨200, [("etag", [0x39])],
    "\x7b\"project\":\x7b\"projectId\":\"".toUTF8.toList ++ [0xFF]
      ++ "\"\x7d\x7d".toUTF8.toList⟩⟩

/-- A call that is never answered. -/
def lostCall : Call := ⟨taggedClient, fun _ => .error { causes := [] }⟩

/-- A tag outlasts a refused call and a lost one, and the request of the latter tells it. -/
theorem tag_of_lostCall :
    LatestTag "NONE" [taggingCall, refusedCall, lostCall] "7 &+" ∧ lostCall.after = taggedClient
      ∧ ∃ request base, taggedClient.request = .ok request ∧ Url.read taggedClient.url = .ok base
        ∧ request.url.parameters = base.parameters ++ [("recursive", "true"), ("alt", "json"),
          ("wait_for_change", "true"), ("timeout_sec", "60"), ("last_etag", "7 &+")] := by
  have htagging : taggingCall.after = taggedClient := by decide +kernel
  have hrefused : refusedCall.after = taggedClient := by decide +kernel
  have hsession : Client.session { url := taggedClient.url, pollSecs := 60 }
      [taggingCall.exchange, refusedCall.exchange, lostCall.exchange]
        = [taggingCall, refusedCall] ++ [lostCall] := by
    show [taggingCall, ⟨taggingCall.after, _⟩, ⟨(⟨taggingCall.after, _⟩ : Call).after, _⟩] = _
    rw [htagging]
    show [taggingCall, refusedCall, ⟨refusedCall.after, _⟩] = _
    rw [hrefused]
    rfl
  obtain ⟨htag, huntagged, -, hrequest⟩ :=
    (tag_follows_latest_snapshot taggedClient.url 60 _).2 _ _ [] hsession
  have hmade : taggedClient.request.toOption.isSome = true := by decide +kernel
  cases hr : taggedClient.request with
  | error n =>
      rw [hr] at hmade
      cases hmade
  | ok request =>
      obtain ⟨hanswer, base, hbase, hparameters⟩ := hrequest request hr
      have hlost : lostCall.after = taggedClient := huntagged (hanswer ▸ .unanswered _)
      rw [hlost] at htag
      exact ⟨htag, hlost, request, base, rfl, hbase, hparameters⟩

end Client

end HostAgent
