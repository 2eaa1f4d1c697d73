import DebugBridge.Proofs.Forward.Spec
import DebugBridge.Request

/-!
# What the text of a forward request tells

The text of a forward request names the device, says whether a forward that is there may be
replaced, and then gives the two specs with a semicolon between them. The device and the choice can
always be told from it. The specs cannot: names may hold semicolons, so a text with more than one of
them may be cut in more than one place.

* `forward_text_eq_iff` — the forwards that have the same text
* `forward_text_two_cuts` — a text that is that of two forwards
-/

namespace DebugBridge

open ForwardSpec (Readable)

namespace ForwardSpec

/-- Two pairs of specs that are one text: behind the first semicolon, `moved` belongs to the remote
spec in the one pair and to the local spec in the other. -/
def Shifted (here there here' there' : ForwardSpec) : Prop :=
  ∃ moved : String, here'.render = here.render ++ ";" ++ moved ∧
    there.render = moved ++ ";" ++ there'.render

variable {here there here' there' : ForwardSpec}

theorem toList_append_semicolon (s t : String) :
    (s ++ ";" ++ t).toList = s.toList ++ ';' :: t.toList :=
  Text.toList_joined ";" ';' rfl s t

/-- A text that is cut at two of its semicolons is cut into shifted parts. -/
theorem moved_of_append {here there here' there' : List Char}
    (h : here ++ ';' :: there = here' ++ ';' :: there') :
    here = here' ∧ there = there' ∨
      (∃ moved, here' = here ++ ';' :: moved ∧ there = moved ++ ';' :: there') ∨
      ∃ moved, here = here' ++ ';' :: moved ∧ there' = moved ++ ';' :: there := by
  rcases List.append_eq_append_iff.mp h with ⟨more, hhere, hthere⟩ | ⟨more, hhere, hthere⟩
  · cases more with
    | nil => exact .inl ⟨by rw [hhere, List.append_nil], (List.cons.inj hthere).2⟩
    | cons c moved =>
      obtain ⟨rfl, hbehind⟩ := List.cons.inj hthere
      exact .inr (.inl ⟨moved, hhere, hbehind⟩)
  · cases more with
    | nil => exact .inl ⟨by rw [hhere, List.append_nil], (List.cons.inj hthere).2.symm⟩
    | cons c moved =>
      obtain ⟨rfl, hbehind⟩ := List.cons.inj hthere
      exact .inr (.inr ⟨moved, hhere, hbehind⟩)

/-- **Pairs of specs are one text exactly if they are the same, or shifted.** -/
theorem render_pair_eq_iff (hhere : Readable here) (hthere : Readable there)
    (hhere' : Readable here') (hthere' : Readable there') :
    here.render ++ ";" ++ there.render = here'.render ++ ";" ++ there'.render ↔
      here = here' ∧ there = there' ∨ Shifted here there here' there' ∨
        Shifted here' there' here there := by
  have hmoved : ∀ {a b c : String}, a.toList = b.toList ++ ';' :: c.toList → a = b ++ ";" ++ c :=
    fun h => String.toList_injective (h.trans (toList_append_semicolon _ _).symm)
  constructor
  · intro h
    have hlist := congrArg String.toList h
    rw [toList_append_semicolon, toList_append_semicolon] at hlist
    rcases moved_of_append hlist with ⟨h, h'⟩ | ⟨moved, h, h'⟩ | ⟨moved, h, h'⟩
    · exact .inl ⟨(hhere.render_inj hhere').mp (String.toList_injective h),
        (hthere.render_inj hthere').mp (String.toList_injective h')⟩
    · refine .inr (.inl ⟨.ofList moved, hmoved ?_, hmoved ?_⟩)
      · rwa [String.toList_ofList]
      · rwa [String.toList_ofList]
    · refine .inr (.inr ⟨.ofList moved, hmoved ?_, hmoved ?_⟩)
      · rwa [String.toList_ofList]
      · rwa [String.toList_ofList]
  · rintro (⟨rfl, rfl⟩ | ⟨moved, h, h'⟩ | ⟨moved, h, h'⟩)
    · rfl
    · rw [h, h']
      simp only [String.append_assoc]
    · rw [h, h']
      simp only [String.append_assoc]

/-- Shifted specs have a semicolon in the longer local spec and one in the longer remote spec. -/
theorem Shifted.semicolons (h : Shifted here there here' there') :
    ';' ∈ here'.render.toList ∧ ';' ∈ there.render.toList := by
  obtain ⟨moved, h, h'⟩ := h
  rw [h, h', toList_append_semicolon, toList_append_semicolon]
  exact ⟨by simp, by simp⟩

/-- The word of a choice is not that of a spec. -/
theorem render_ne_norebind (spec : ForwardSpec) (rest more : List Char) :
    "norebind:".toList ++ rest ≠ spec.render.toList ++ more := by
  intro h
  have hparts : spec.render.toList ++ more = spec.kind.toList ++ ':' :: (spec.value.toList ++ more) := by
    rw [render, Text.toList_joined ":" ':' rfl, List.append_assoc, List.cons_append]
  have hcut : "norebind".toList ++ ':' :: rest = "norebind:".toList ++ rest := rfl
  rw [hparts, ← hcut, Text.append_separator_inj (by decide) (colon_notMem_kind spec)] at h
  have hkinds : ∀ kind ∈ kinds, "norebind".toList ≠ kind.toList := by decide
  exact hkinds _ spec.kind_mem h.1

end ForwardSpec

namespace Request

open ForwardSpec

variable {serial serial' : String} {here there here' there' : ForwardSpec} {noRebind noRebind' : Bool}

/-- What stands behind the serial. -/
def choice (noRebind : Bool) : String := if noRebind then "norebind:" else ""

theorem toList_forward (serial : String) (here there : ForwardSpec) (noRebind : Bool) :
    (Request.forward serial here there noRebind).text.toList = "host-serial:".toList ++
      (serial.toList ++ ':' :: ("forward:".toList ++
        ((choice noRebind).toList ++ (here.render ++ ";" ++ there.render).toList))) := by
  show ("host-serial:" ++ serial ++ ":forward:" ++ choice noRebind ++ here.render ++ ";" ++
    there.render).toList = _
  simp only [String.toList_append, List.append_assoc]
  rfl

/-- The choice can be told from what stands in front of the specs. -/
theorem choice_inj {more more' : List Char}
    (h : (choice noRebind).toList ++ (here.render.toList ++ more) =
      (choice noRebind').toList ++ (here'.render.toList ++ more')) : noRebind = noRebind' := by
  cases noRebind with
  | true =>
    cases noRebind' with
    | true => rfl
    | false => exact absurd h (render_ne_norebind here' _ _)
  | false =>
    cases noRebind' with
    | true => exact absurd h.symm (render_ne_norebind here _ _)
    | false => rfl

/-- **Forwards have the same text exactly if they are the same up to a shift of their specs.** The
serial and the choice can be told from the text, and so can the specs unless each request has a
semicolon that is in the local spec of the one and in the remote spec of the other. -/
theorem forward_text_eq_iff (hserial : ':' ∉ serial.toList) (hserial' : ':' ∉ serial'.toList)
    (hhere : Readable here) (hthere : Readable there) (hhere' : Readable here')
    (hthere' : Readable there') :
    ((Request.forward serial here there noRebind).text =
        (Request.forward serial' here' there' noRebind').text ↔
      serial = serial' ∧ noRebind = noRebind' ∧ (here = here' ∧ there = there' ∨
        Shifted here there here' there' ∨ Shifted here' there' here there)) ∧
    (¬ (';' ∈ here'.render.toList ∧ ';' ∈ there.render.toList) →
      ¬ (';' ∈ here.render.toList ∧ ';' ∈ there'.render.toList) →
      (Request.forward serial here there noRebind).text =
        (Request.forward serial' here' there' noRebind').text →
      serial = serial' ∧ here = here' ∧ there = there' ∧ noRebind = noRebind') := by
  have hiff : (Request.forward serial here there noRebind).text =
        (Request.forward serial' here' there' noRebind').text ↔
      serial = serial' ∧ noRebind = noRebind' ∧ (here = here' ∧ there = there' ∨
        Shifted here there here' there' ∨ Shifted here' there' here there) := by
    rw [← render_pair_eq_iff hhere hthere hhere' hthere', ← String.toList_inj, toList_forward,
      toList_forward, List.append_cancel_left_eq, Text.append_separator_inj hserial hserial',
      List.append_cancel_left_eq, String.toList_inj]
    refine and_congr_right fun _ => ?_
    constructor
    · intro h
      obtain rfl : noRebind = noRebind' := by
        rw [toList_append_semicolon, toList_append_semicolon] at h
        exact choice_inj h
      exact ⟨rfl, String.toList_injective (List.append_cancel_left h)⟩
    · rintro ⟨rfl, h⟩
      rw [h]
  refine ⟨hiff, fun hnone hnone' htext => ?_⟩
  obtain ⟨hserial, hchoice, ⟨h, h'⟩ | h | h⟩ := hiff.mp htext
  · exact ⟨hserial, h, h', hchoice⟩
  · exact absurd h.semicolons hnone
  · exact absurd h.semicolons hnone'

/-- The specs of one request are shifted in the other; and the choice alone makes the texts of two
requests differ, although the remote spec of both has a semicolon. -/
theorem forward_text_eq_iff_shifted :
    (Request.forward "S1" (.fileSocket "/a;localreserved:b") (.tcp 5) true).text =
      (Request.forward "S1" (.fileSocket "/a") (.reservedSocket "b;tcp:5") true).text ∧
    (Request.forward "S1" (.tcp 80) (.abstractSocket "a;b") true).text ≠
      (Request.forward "S1" (.tcp 80) (.abstractSocket "a;b") false).text := by
  have hreadable : ∀ {spec : ForwardSpec}, spec.value ≠ "" → Readable spec := readable_iff.mpr
  refine ⟨(forward_text_eq_iff (by decide) (by decide) (hreadable (by decide))
    (hreadable (by decide)) (hreadable (by decide)) (hreadable (by decide))).1.mpr
      ⟨rfl, rfl, .inr (.inr ⟨"localreserved:b", rfl, rfl⟩)⟩, fun htext => ?_⟩
  have hsame := (forward_text_eq_iff (by decide) (by decide) (hreadable (by decide))
    (hreadable (by decide)) (hreadable (by decide)) (hreadable (by decide))).2 (by decide)
      (by decide) htext
  cases hsame.2.2.2

/-- **A text that is that of two forwards.** The local spec of the one has a semicolon in its name,
and so has the remote spec of the other. -/
theorem forward_text_two_cuts :
    ':' ∉ "S1".toList ∧
    ForwardSpec.parse "localabstract:a;localabstract:b" =
      .ok (.abstractSocket "a;localabstract:b") ∧
    ForwardSpec.parse "localabstract:c" = .ok (.abstractSocket "c") ∧
    ForwardSpec.parse "localabstract:a" = .ok (.abstractSocket "a") ∧
    ForwardSpec.parse "localabstract:b;localabstract:c" =
      .ok (.abstractSocket "b;localabstract:c") ∧
    (Request.forward "S1" (.abstractSocket "a;localabstract:b") (.abstractSocket "c") false).text =
      (Request.forward "S1" (.abstractSocket "a") (.abstractSocket "b;localabstract:c") false).text ∧
    ForwardSpec.abstractSocket "a;localabstract:b" ≠ .abstractSocket "a" :=
  ⟨by decide, rfl, rfl, rfl, rfl, rfl, by decide⟩

end Request

end DebugBridge
