import DebugBridge.Forward.Spec
import DebugBridge.Proofs.Text

/-!
# How forward specs are written

A spec may be written in more than one way, since numbers may: `Spells` lists the ways. Reading
accepts exactly these, and the written form that is shown is one of them. So specs that are shown
alike are the same.

* `parse_eq_ok_iff`, `parse_eq_error_iff` — which texts are read, and as what
* `readable_iff` — which specs can be read from some text
* `parse_render`, `render_inj` — what is shown is read back
-/

namespace DebugBridge.ForwardSpec

variable {text kind value : String} {spec spec' : ForwardSpec}

/-- The ways to write a spec. Numbers may start with zeros and a plus sign; names are not empty, and
may hold colons of their own. -/
inductive Spells : String → ForwardSpec → Prop
  | tcp {value : String} {n : Nat} (hvalue : Text.Decimal value.toList n) (hn : n ≤ 65535) :
    Spells ("tcp:" ++ value) (.tcp (.ofNat n))
  | process {value : String} {n : Nat} (hvalue : Text.Decimal value.toList n)
    (hn : n ≤ 4294967295) : Spells ("jdwp:" ++ value) (.process (.ofNat n))
  | abstractSocket {name : String} (hne : name ≠ "") :
    Spells ("localabstract:" ++ name) (.abstractSocket name)
  | reservedSocket {name : String} (hne : name ≠ "") :
    Spells ("localreserved:" ++ name) (.reservedSocket name)
  | fileSocket {name : String} (hne : name ≠ "") :
    Spells ("localfilesystem:" ++ name) (.fileSocket name)

/-- Some text is read as the spec. -/
def Readable (spec : ForwardSpec) : Prop := ∃ text, parse text = .ok spec

/-! ## Reading -/

/-- A text is read by what stands before and behind its first colon. -/
theorem parse?_parts (kind : String) (hkind : ':' ∉ kind.toList) (hvalue : value ≠ "") :
    parse? (kind ++ ":" ++ value) = ofParts? kind.toList value.toList := by
  have hne : value.toList.isEmpty = false := by
    rw [List.isEmpty_eq_false_iff]
    exact mt String.toList_eq_nil_iff.mp hvalue
  rw [parse?, Text.toList_joined ":" ':' rfl, Text.splitFirst?_eq_some_iff.mpr ⟨rfl, hkind⟩]
  simp only [hne, Bool.false_eq_true, if_false]

/-- A text that is read has a colon, and something behind it. -/
theorem parts_of_parse? (h : parse? text = some spec) :
    ∃ kind value, text = String.ofList kind ++ ":" ++ String.ofList value ∧ value ≠ [] ∧
      ofParts? kind value = some spec := by
  rw [parse?] at h
  split at h
  · next kind value hcut =>
    split at h
    · cases h
    · next hne =>
      obtain ⟨hlist, -⟩ := Text.splitFirst?_eq_some_iff.mp hcut
      refine ⟨kind, value, String.toList_injective ?_, by simpa using hne, h⟩
      rw [hlist, Text.toList_joined ":" ':' rfl, String.toList_ofList, String.toList_ofList]
  · cases h

theorem Decimal.ne_empty {n : Nat} (h : Text.Decimal value.toList n) : value ≠ "" := by
  rintro rfl
  obtain ⟨digits, heq | heq, hne, -⟩ := h
  · exact hne heq.symm
  · cases heq

/-- **Exactly the ways to write a spec are read.** -/
theorem parse?_eq_some_iff : parse? text = some spec ↔ Spells text spec := by
  constructor
  · intro h
    obtain ⟨kind, value, rfl, hne, hparts⟩ := parts_of_parse? h
    have hname : String.ofList value ≠ "" := mt String.ofList_eq_empty_iff.mp hne
    unfold ofParts? at hparts
    split at hparts
    · next hkind =>
      obtain ⟨port, hport, rfl⟩ := Option.map_eq_some_iff.mp hparts
      obtain ⟨n, hvalue, hn, rfl⟩ := Text.word16?_eq_some_iff.mp hport
      rw [hkind, String.ofList_toList]
      exact .tcp (by rwa [String.toList_ofList]) hn
    split at hparts
    · next hkind =>
      obtain ⟨id, hid, rfl⟩ := Option.map_eq_some_iff.mp hparts
      obtain ⟨n, hvalue, hn, rfl⟩ := Text.word32?_eq_some_iff.mp hid
      rw [hkind, String.ofList_toList]
      exact .process (by rwa [String.toList_ofList]) hn
    split at hparts
    · next hkind =>
      obtain rfl := Option.some.inj hparts
      rw [hkind, String.ofList_toList]
      exact .abstractSocket hname
    split at hparts
    · next hkind =>
      obtain rfl := Option.some.inj hparts
      rw [hkind, String.ofList_toList]
      exact .reservedSocket hname
    split at hparts
    · next hkind =>
      obtain rfl := Option.some.inj hparts
      rw [hkind, String.ofList_toList]
      exact .fileSocket hname
    · cases hparts
  · intro h
    cases h with
    | @tcp value n hvalue hn =>
      refine (parse?_parts "tcp" (by decide) (Decimal.ne_empty hvalue)).trans ?_
      rw [ofParts?, if_pos rfl, Text.word16?_eq_some_iff.mpr ⟨n, hvalue, hn, rfl⟩, Option.map_some]
    | @process value n hvalue hn =>
      refine (parse?_parts "jdwp" (by decide) (Decimal.ne_empty hvalue)).trans ?_
      rw [ofParts?, if_neg (by decide), if_pos rfl,
        Text.word32?_eq_some_iff.mpr ⟨n, hvalue, hn, rfl⟩, Option.map_some]
    | abstractSocket hne =>
      refine (parse?_parts "localabstract" (by decide) hne).trans ?_
      rw [ofParts?, if_neg (by decide), if_neg (by decide), if_pos rfl, String.ofList_toList]
    | reservedSocket hne =>
      refine (parse?_parts "localreserved" (by decide) hne).trans ?_
      rw [ofParts?, if_neg (by decide), if_neg (by decide), if_neg (by decide), if_pos rfl,
        String.ofList_toList]
    | fileSocket hne =>
      refine (parse?_parts "localfilesystem" (by decide) hne).trans ?_
      rw [ofParts?, if_neg (by decide), if_neg (by decide), if_neg (by decide), if_neg (by decide),
        if_pos rfl, String.ofList_toList]

theorem parse_eq_ok_iff : parse text = .ok spec ↔ Spells text spec := by
  rw [← parse?_eq_some_iff, parse]
  cases parse? text with
  | some other => rw [Except.ok.injEq, Option.some.injEq]
  | none => exact ⟨nofun, nofun⟩

/-- **Any other text is refused, and named.** -/
theorem parse_eq_error_iff {e : Failure} :
    parse text = .error e ↔ (∀ spec, ¬ Spells text spec) ∧ e = .invalidForwardSpec text := by
  simp only [← parse?_eq_some_iff]
  rw [parse]
  cases parse? text with
  | some other => exact ⟨nofun, fun h => absurd rfl (h.1 other)⟩
  | none =>
    constructor
    · intro h
      exact ⟨nofun, (Except.error.inj h).symm⟩
    · rintro ⟨-, rfl⟩
      rfl

/-! ## The written form that is shown -/

/-- The words that may stand in front of the colon. -/
def kinds : List String := ["tcp", "localabstract", "localreserved", "localfilesystem", "jdwp"]

theorem kind_mem (spec : ForwardSpec) : spec.kind ∈ kinds := by
  cases spec <;> simp [kind, kinds]

theorem colon_notMem_kind (spec : ForwardSpec) : ':' ∉ spec.kind.toList := by
  have hkinds : ∀ kind ∈ kinds, ':' ∉ kind.toList := by decide
  exact hkinds _ spec.kind_mem

/-- **A spec whose value is not empty is read back from what is shown.** -/
theorem parse?_render (h : spec.value ≠ "") : parse? spec.render = some spec := by
  rw [render, parse?_parts _ (colon_notMem_kind spec) h]
  cases spec with
  | tcp port =>
    show ofParts? "tcp".toList (toString port.toNat).toList = _
    rw [ofParts?, if_pos rfl, Text.word16?_toString, Option.map_some]
  | process id =>
    show ofParts? "jdwp".toList (toString id.toNat).toList = _
    rw [ofParts?, if_neg (by decide), if_pos rfl, Text.word32?_toString, Option.map_some]
  | abstractSocket name | reservedSocket name | fileSocket name =>
    simp [ofParts?, kind, value]

/-- The specs that can be read: what stands behind the colon is not empty. -/
theorem readable_iff : Readable spec ↔ spec.value ≠ "" := by
  constructor
  · rintro ⟨text, h⟩
    have hdigits : ∀ n : Nat, toString n ≠ "" := fun n heq => by
      have := Text.toList_toString n
      rw [heq] at this
      exact Nat.toDigits_ne_nil this.symm
    cases parse_eq_ok_iff.mp h with
    | tcp | process => exact hdigits _
    | abstractSocket hne | reservedSocket hne | fileSocket hne => exact hne
  · intro h
    exact ⟨spec.render, by rw [parse, parse?_render h]⟩

theorem Readable.parse_render (h : Readable spec) : parse spec.render = .ok spec := by
  rw [parse, parse?_render (readable_iff.mp h)]

theorem Readable.spells (h : Readable spec) : Spells spec.render spec :=
  parse_eq_ok_iff.mp h.parse_render

/-- **Specs that are shown alike are the same.** -/
theorem Readable.render_inj (h : Readable spec) (h' : Readable spec') :
    spec.render = spec'.render ↔ spec = spec' := by
  constructor
  · intro heq
    have := h.parse_render
    rw [heq, h'.parse_render] at this
    exact (Except.ok.inj this).symm
  · exact fun heq => congrArg render heq

end DebugBridge.ForwardSpec
