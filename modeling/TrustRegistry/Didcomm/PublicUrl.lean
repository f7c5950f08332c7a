import TrustRegistry.Didcomm.DidDocument
import TrustRegistry.Lib.Uri

/-!
# The host of an advertised URL

A URL in clear text may be advertised when it stays on the machine.  What is looked
at is the text up to the first `/`, `:` or `?`, and whether the text starts with the
literal `[::1]`; the host of the URL is what stands behind the user information, and
goes up to the port.

## Main definitions

* `httpRest`, `httpHost` — what follows the scheme, and the host in it.
* `loopbackHosts` — the hosts that stay on the machine.
* `EndsAsHost` — a host of these, with nothing or a port behind it.

## Main results

* `validatePublicUrl_eq_ok_iff` — the URLs in clear text that are accepted.
* `httpHost_mem_iff` — which of them have a host of these.
-/

namespace TrustRegistry

/-- What follows the scheme `http://`. -/
def httpRest (url : String) : List Char := url.toList.drop 7

/-- The authority of a URL in clear text. -/
def httpAuthority (url : String) : List Char := Uri.authority (httpRest url)

/-- The host of a URL in clear text. -/
def httpHost (url : String) : String :=
  String.ofList (Uri.host (Uri.hostPort (httpAuthority url)))

/-- The hosts that stay on the machine. -/
def loopbackHosts : List String := ["localhost", "127.0.0.1", "[::1]"]

/-- One of these hosts, and behind it nothing or a port. -/
def EndsAsHost (l : List Char) : Prop :=
  ∃ n ∈ loopbackHosts, ∃ tail, l = n.toList ++ tail ∧ Uri.Endable tail

/-- The text before a `/`, a `:` or a `?`. -/
def beforeDelimiter (rest : List Char) : List Char :=
  rest.takeWhile fun c => c ≠ '/' ∧ c ≠ ':' ∧ c ≠ '?'

/-- An authority that cannot be mistaken: it has no user information, and a literal
`[::1]` at its front ends as a host does; or there is user information, and what
stands behind it ends so. -/
def Unmistakable (authority : List Char) : Prop :=
  if '@' ∈ authority then EndsAsHost (Uri.hostPort authority)
  else "[::1]".toList <+: authority → Uri.Endable (authority.drop 5)

theorem isHost_of_mem {n : String} (h : n ∈ loopbackHosts) : Uri.IsHost n.toList := by
  simp only [loopbackHosts, List.mem_cons, List.not_mem_nil, or_false] at h
  rcases h with rfl | rfl | rfl
  · exact .name (by decide) (by decide)
  · exact .name (by decide) (by decide)
  · exact .literal (n := "::1".toList) (by decide)

/-- A host is one of these exactly when the text ends as such. -/
theorem host_mem_iff {l : List Char} :
    String.ofList (Uri.host l) ∈ loopbackHosts ↔ EndsAsHost l := by
  constructor
  · intro h
    exact ⟨_, h, (Uri.host_eq_iff (isHost_of_mem h)).mp (by simp)⟩
  · rintro ⟨n, hn, hl⟩
    rw [(Uri.host_eq_iff (isHost_of_mem hn)).mpr hl, String.ofList_toList]
    exact hn

/-- **The URLs in clear text that are accepted.** -/
theorem validatePublicUrl_eq_ok_iff {url : String} (hhttp : startsWith url "http://" = true) :
    validatePublicUrl url = .ok () ↔
      beforeDelimiter (httpRest url) = "localhost".toList ∨
        beforeDelimiter (httpRest url) = "127.0.0.1".toList ∨
        "[::1]".toList <+: httpRest url := by
  have hhttps : startsWith url "https://" = false := by
    rw [startsWith, Bool.eq_false_iff]
    intro h
    -- of the two schemes neither is the start of the other
    have hprefix := List.prefix_of_prefix_length_le (List.isPrefixOf_iff_prefix.mp hhttp)
      (List.isPrefixOf_iff_prefix.mp h) (by decide)
    revert hprefix
    decide
  unfold validatePublicUrl
  rw [hhttps, hhttp, if_neg Bool.false_ne_true]
  dsimp only
  rw [Bool.true_and]
  have htest : (String.ofList ((String.ofList (url.toList.drop 7)).toList.takeWhile fun c =>
        c ≠ '/' ∧ c ≠ ':' ∧ c ≠ '?') = "localhost" ||
      String.ofList ((String.ofList (url.toList.drop 7)).toList.takeWhile fun c =>
        c ≠ '/' ∧ c ≠ ':' ∧ c ≠ '?') = "127.0.0.1" ||
      startsWith (String.ofList (url.toList.drop 7)) "[::1]") = true ↔
      beforeDelimiter (httpRest url) = "localhost".toList ∨
        beforeDelimiter (httpRest url) = "127.0.0.1".toList ∨
        "[::1]".toList <+: httpRest url := by
    simp only [Bool.or_eq_true, decide_eq_true_eq, ← String.toList_inj, String.toList_ofList,
      startsWith, List.isPrefixOf_iff_prefix, or_assoc]
    rfl
  split
  · next h => exact iff_of_true rfl (htest.mp h)
  · next h => exact iff_of_false nofun fun h' => h (htest.mpr h')

/-- The text before a delimiter, and what stands behind it in the authority. -/
theorem httpAuthority_of_before {url n : String} (hn : ∀ c ∈ n.toList, Uri.inAuthority c = true)
    (h : beforeDelimiter (httpRest url) = n.toList) :
    ∃ tail, httpAuthority url = n.toList ++ tail ∧ Uri.Endable tail := by
  obtain ⟨-, tail, hrest, htail⟩ := Uri.takeWhile_eq_iff.mp h
  refine ⟨Uri.authority tail, ?_, fun c hc => ?_⟩
  · rw [httpAuthority, hrest, Uri.authority_append hn]
  · cases tail with
    | nil => cases hc
    | cons d tail =>
      have hd := htail d rfl
      rw [Uri.authority, List.takeWhile_cons] at hc
      split at hc
      · next hin =>
        obtain rfl := Option.some.inj hc
        simp only [Uri.inAuthority, decide_eq_true_eq] at hin
        simp only [decide_eq_false_iff_not, not_and_or, not_not] at hd
        rcases hd with h | h | h
        · exact absurd h hin.1
        · exact h
        · exact absurd h hin.2.1
      · cases hc

/-- A name does not start as the literal does. -/
theorem not_literal_front {n tail : List Char} (hne : n ≠ []) (h : '[' ∉ n.head?) :
    ¬ "[::1]".toList <+: n ++ tail := by
  rintro ⟨x, hx⟩
  have hliteral : "[::1]".toList = '[' :: "::1]".toList := by decide
  cases n with
  | nil => exact hne rfl
  | cons c n =>
    rw [hliteral, List.cons_append, List.cons_append] at hx
    exact h (congrArg some (List.cons.inj hx).1.symm)

/-- A text that starts with the literal ends as a host when nothing or a port
follows. -/
theorem endsAsHost_literal_iff {tail : List Char} :
    EndsAsHost ("[::1]".toList ++ tail) ↔ Uri.Endable tail := by
  constructor
  · rintro ⟨n, hn, tail', htail, hend⟩
    simp only [loopbackHosts, List.mem_cons, List.not_mem_nil, or_false] at hn
    rcases hn with rfl | rfl | rfl
    · exact absurd ⟨tail, htail⟩ (not_literal_front (by decide) (by decide))
    · exact absurd ⟨tail, htail⟩ (not_literal_front (by decide) (by decide))
    · rwa [List.append_cancel_left htail]
  · intro h
    exact ⟨"[::1]", by decide, tail, rfl, h⟩

/-- **Which of the URLs that are accepted have a host that stays on the machine**:
those whose authority cannot be mistaken. -/
theorem httpHost_mem_iff {url : String} (hhttp : startsWith url "http://" = true)
    (hvalid : validatePublicUrl url = .ok ()) :
    httpHost url ∈ loopbackHosts ↔ Unmistakable (httpAuthority url) := by
  rw [httpHost, host_mem_iff, Unmistakable]
  split
  · exact Iff.rfl
  · next hat =>
    rw [Uri.hostPort_eq_self hat]
    -- a name is followed by what ends it, the literal may be followed by anything
    have hname : ∀ n ∈ loopbackHosts, (∀ c ∈ n.toList, Uri.inAuthority c = true) →
        n.toList ≠ [] → '[' ∉ n.toList.head? → beforeDelimiter (httpRest url) = n.toList →
        (EndsAsHost (httpAuthority url) ↔ ("[::1]".toList <+: httpAuthority url →
          Uri.Endable ((httpAuthority url).drop 5))) := by
      intro n hn hin hne hbracket h
      obtain ⟨tail, htail, hend⟩ := httpAuthority_of_before hin h
      refine iff_of_true ⟨n, hn, tail, htail, hend⟩ fun hliteral => ?_
      rw [htail] at hliteral
      exact absurd hliteral (not_literal_front hne hbracket)
    rcases (validatePublicUrl_eq_ok_iff hhttp).mp hvalid with h | h | ⟨tail, htail⟩
    · have hin : "localhost".toList.all Uri.inAuthority = true := by decide
      exact hname "localhost" (by decide) (List.all_eq_true.mp hin) (by decide) (by decide) h
    · have hin : "127.0.0.1".toList.all Uri.inAuthority = true := by decide
      exact hname "127.0.0.1" (by decide) (List.all_eq_true.mp hin) (by decide) (by decide) h
    · have hauthority : httpAuthority url = "[::1]".toList ++ Uri.authority tail := by
        rw [httpAuthority, ← htail]
        exact Uri.authority_append (List.all_eq_true.mp (by decide)) tail
      have hdrop : ("[::1]".toList ++ Uri.authority tail).drop 5 = Uri.authority tail :=
        List.drop_left' (by decide)
      rw [hauthority, endsAsHost_literal_iff, hdrop]
      exact ⟨fun h _ => h, fun h => h (List.prefix_append _ _)⟩

/-- A name that is user information, and a literal that goes on, are taken for the
host. -/
theorem lookalikes_accepted :
    let userinfo := "http://localhost:x@evil.com"
    let literal := "http://[::1].evil.com"
    (startsWith userinfo "http://" = true ∧ validatePublicUrl userinfo = .ok () ∧
      httpHost userinfo = "evil.com" ∧ httpHost userinfo ∉ loopbackHosts) ∧
    (startsWith literal "http://" = true ∧ validatePublicUrl literal = .ok () ∧
      httpHost literal = "[::1].evil.com" ∧ httpHost literal ∉ loopbackHosts) := by
  have huserinfo : httpHost "http://localhost:x@evil.com" = "evil.com" := rfl
  have hliteral : httpHost "http://[::1].evil.com" = "[::1].evil.com" := rfl
  refine ⟨⟨rfl, rfl, huserinfo, ?_⟩, ⟨rfl, rfl, hliteral, ?_⟩⟩
  · rw [huserinfo]
    decide
  · rw [hliteral]
    decide

/-- A name with a port and a path is the host. -/
theorem localhost_accepted :
    httpHost "http://localhost:3232/registry?x=1" ∈ loopbackHosts := by
  refine (httpHost_mem_iff rfl rfl).mpr ?_
  have hauthority : httpAuthority "http://localhost:3232/registry?x=1" = "localhost:3232".toList :=
    rfl
  rw [hauthority, Unmistakable, if_neg (by decide)]
  decide

end TrustRegistry
