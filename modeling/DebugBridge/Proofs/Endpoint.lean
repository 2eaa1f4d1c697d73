import DebugBridge.Proofs.Text
import DebugBridge.Request

/-!
# How addresses are written

An address may be written with its port or, if its host has no colon, without it: `Spells` lists the
ways. Reading accepts exactly these. The written form that is shown always has the port, which
holds no colon, so the host may: what stands behind the last colon is the port.

* `parse_eq_ok_iff`, `parse_eq_error_iff` — which texts are read, as what, and how others are refused
* `parse_render` — what is shown is read back, whatever the default port is
* `text_connect_inj`, `text_disconnect_inj` — a request about an endpoint tells which one it is
* `addresses_exact` — reading, writing and the requests that carry addresses
-/

namespace DebugBridge.Endpoint

variable {text : String} {e e' : Endpoint} {defaultPort : UInt16}

/-- The ways to write an endpoint. A host without a colon may stand alone. The port may start with
zeros and a plus sign; in front of it the host may hold colons of its own. -/
inductive Spells (defaultPort : UInt16) : String → Endpoint → Prop
  | host {host : String} (hne : host ≠ "") (hcolon : ':' ∉ host.toList) :
    Spells defaultPort host ⟨host, defaultPort⟩
  | hostPort {host port : String} {n : Nat} (hne : host ≠ "")
    (hport : Text.Decimal port.toList n) (hn : n ≤ 65535) :
    Spells defaultPort (host ++ ":" ++ port) ⟨host, .ofNat n⟩

/-! ## Reading -/

/-- A text is read by what stands before and behind its last colon. -/
theorem parse?_parts {host port : String} (hne : host ≠ "") (hport : ':' ∉ port.toList) :
    parse? (host ++ ":" ++ port) defaultPort =
      (Text.word16? port.toList).map fun port => ⟨host, port⟩ := by
  have hsome : host.toList.isEmpty = false := by
    rw [List.isEmpty_eq_false_iff]
    exact mt String.toList_eq_nil_iff.mp hne
  rw [parse?, Text.toList_joined ":" ':' rfl, Text.splitLast?_eq_some_iff.mpr ⟨rfl, hport⟩]
  simp only [hsome, Bool.false_eq_true, if_false, String.ofList_toList]

theorem parse?_whole (hne : text ≠ "") (hcolon : ':' ∉ text.toList) :
    parse? text defaultPort = some ⟨text, defaultPort⟩ := by
  rw [parse?, Text.splitLast?_eq_none_iff.mpr hcolon]
  exact if_neg (mt String.isEmpty_iff.mp hne)

/-- **Exactly the ways to write an endpoint are read.** -/
theorem parse?_eq_some_iff : parse? text defaultPort = some e ↔ Spells defaultPort text e := by
  constructor
  · intro h
    rw [parse?] at h
    split at h
    · next host port hcut =>
      split at h
      · cases h
      · next hne =>
        obtain ⟨hlist, -⟩ := Text.splitLast?_eq_some_iff.mp hcut
        obtain ⟨word, hword, rfl⟩ := Option.map_eq_some_iff.mp h
        obtain ⟨n, hport, hn, rfl⟩ := Text.word16?_eq_some_iff.mp hword
        have htext : text = String.ofList host ++ ":" ++ String.ofList port :=
          String.toList_injective <| by
            rw [hlist, Text.toList_joined ":" ':' rfl, String.toList_ofList, String.toList_ofList]
        rw [htext]
        exact .hostPort (by simpa using hne) (by rwa [String.toList_ofList]) hn
    · next hcut =>
      split at h
      · cases h
      · next hne =>
        obtain rfl := Option.some.inj h
        exact .host (by simpa using hne) (Text.splitLast?_eq_none_iff.mp hcut)
  · intro h
    cases h with
    | host hne hcolon => exact parse?_whole hne hcolon
    | hostPort hne hport hn =>
      rw [parse?_parts hne (hport.notMem (by decide) (by decide)),
        Text.word16?_eq_some_iff.mpr ⟨_, hport, hn, rfl⟩, Option.map_some]

theorem parse_eq_ok_iff : parse text defaultPort = .ok e ↔ Spells defaultPort text e := by
  rw [← parse?_eq_some_iff, parse]
  cases parse? text defaultPort with
  | some other => rw [Except.ok.injEq, Option.some.injEq]
  | none => exact ⟨nofun, nofun⟩

/-- **Any other text is refused, and quoted.** -/
theorem parse_eq_error_iff {failure : Failure} :
    parse text defaultPort = .error failure ↔ (∀ e, ¬ Spells defaultPort text e) ∧
      failure = .malformed ("Invalid address: " ++ Text.quoted text) := by
  simp only [← parse?_eq_some_iff]
  rw [parse]
  cases parse? text defaultPort with
  | some other => exact ⟨nofun, fun h => absurd rfl (h.1 other)⟩
  | none =>
    constructor
    · intro h
      exact ⟨nofun, (Except.error.inj h).symm⟩
    · rintro ⟨-, rfl⟩
      rfl

/-! ## The written form that is shown -/

/-- **An endpoint that has a host is read back from what is shown.** -/
theorem parse_render (hne : e.host ≠ "") : parse e.render defaultPort = .ok e := by
  rw [parse, render, parse?_parts hne (Text.notMem_toString (by decide)), Text.word16?_toString]
  rfl

/-- Endpoints that are shown alike are the same, even if they have no host. -/
theorem render_inj : e.render = e'.render ↔ e = e' := by
  constructor
  · intro h
    have hcut : ∀ e : Endpoint, Text.splitLast? ':' e.render.toList =
        some (e.host.toList, (toString e.port.toNat).toList) := fun e =>
      Text.splitLast?_eq_some_iff.mpr
        ⟨Text.toList_joined ":" ':' rfl _ _, Text.notMem_toString (by decide)⟩
    have hparts := hcut e
    rw [h, hcut e', Option.some.injEq, Prod.mk.injEq] at hparts
    obtain ⟨hhost, hport⟩ := hparts
    have hword := Text.word16?_toString e.port
    rw [← hport, Text.word16?_toString] at hword
    rw [Endpoint.mk.injEq]
    exact ⟨(String.toList_injective hhost).symm, (Option.some.inj hword).symm⟩
  · exact fun h => congrArg render h

/-! ## Requests about an endpoint -/

theorem text_connect_inj : (Request.connect e).text = (Request.connect e').text ↔ e = e' :=
  (String.append_right_inj "host:connect:").trans render_inj

theorem text_disconnect_inj :
    (Request.disconnect e).text = (Request.disconnect e').text ↔ e = e' :=
  (String.append_right_inj "host:disconnect:").trans render_inj

theorem text_connect_ne_disconnect : (Request.connect e).text ≠ (Request.disconnect e').text := by
  intro h
  have hlists : ("host:connect:" ++ e.render).toList = ("host:disconnect:" ++ e'.render).toList :=
    congrArg String.toList h
  rw [String.toList_append, String.toList_append] at hlists
  simp at hlists

/-- **Addresses are read exactly as they are written.** Exactly the spellings of an endpoint are
read, and anything else is refused; the written form of an endpoint that has a host is one of them;
and a request to connect or to disconnect tells by its text which of both it is, and for which
endpoint. -/
theorem addresses_exact (text : String) (e e' : Endpoint) (defaultPort : UInt16) :
    (parse text defaultPort = .ok e ↔ Spells defaultPort text e) ∧
    (∀ failure, parse text defaultPort = .error failure ↔
      (∀ e, ¬ Spells defaultPort text e) ∧
        failure = .malformed ("Invalid address: " ++ Text.quoted text)) ∧
    (e.host ≠ "" → parse e.render defaultPort = .ok e) ∧
    ((Request.connect e).text = (Request.connect e').text ↔ e = e') ∧
    ((Request.disconnect e).text = (Request.disconnect e').text ↔ e = e') ∧
    (Request.connect e).text ≠ (Request.disconnect e').text :=
  ⟨parse_eq_ok_iff, fun _ => parse_eq_error_iff, parse_render, text_connect_inj,
    text_disconnect_inj, text_connect_ne_disconnect⟩

/-- A host with colons is read back from its written form. Without a port it would be read as
another host: what stands behind its last colon is a port too. -/
theorem addresses_exact_colons :
    (⟨"::1", 80⟩ : Endpoint).host ≠ "" ∧ (⟨"::1", 80⟩ : Endpoint).render = "::1:80" ∧
    parse "::1:80" 5555 = .ok ⟨"::1", 80⟩ ∧ parse "::1" 5555 = .ok ⟨":", 1⟩ := by
  have hport : Text.Decimal "1".toList 1 :=
    ⟨['1'], .inl rfl, List.cons_ne_nil _ _, List.forall_mem_singleton.mpr rfl, rfl⟩
  refine ⟨by decide, rfl, ?_, ?_⟩
  · exact (addresses_exact "" ⟨"::1", 80⟩ ⟨"", 0⟩ 5555).2.2.1 (by decide)
  · exact (addresses_exact (":" ++ ":" ++ "1") ⟨":", 1⟩ ⟨"", 0⟩ 5555).1.mpr
      (.hostPort (by decide) hport (by decide))

end DebugBridge.Endpoint
