import HtmlDiagnostics.Proofs.Encoding.Ascii
import HtmlDiagnostics.Proofs.Encoding.Newline
import HtmlDiagnostics.Proofs.RuleList.Refresh

/-! # What stands around the zone

The command replaces the zone of a document, but it reads and writes the document as a text. So
what stands around the zone goes through UTF-8 and back, which keeps every byte, and its line ends
are unified on the way, which does not: in a document that is written, every line ends with a line
feed. The bytes around the zone are kept exactly if there was no carriage return in them, or if
there was nothing to write.

* **`Zone.InBytes`** — where the zone lies in the bytes of a document.
* **`Zone.nonempty_inBytes_iff`** — it lies somewhere if the markers are there in order.
* **`Zone.InBytes.exists_find?`** — the zone in the bytes is the zone in the text.
* **`Zone.InBytes.IsKept`** — the bytes around the zone are kept.
* **`Command.run_around_zone`** — what a run that writes does to them. -/

namespace HtmlDiagnostics.RuleList

open Newline (carriageReturn unify)

namespace Zone

/-! ## The zone in bytes -/

/-- Where the zone lies in the bytes of a document: between the first start marker and the first
end marker behind it. -/
structure InBytes (bytes : List UInt8) where
  /-- The bytes in front of the start marker. -/
  front : List UInt8
  /-- The bytes between the markers. -/
  inner : List UInt8
  /-- The bytes behind the end marker. -/
  back : List UInt8
  /-- The parts make up the document. -/
  parts : bytes = front ++ Utf8.encode startMarker ++ (inner ++ Utf8.encode endMarker ++ back)
  /-- No start marker begins earlier. -/
  firstStart : ∀ n < front.length, ¬Utf8.encode startMarker <+: bytes.drop n
  /-- No end marker begins earlier behind the start marker. -/
  firstEnd : ∀ n < inner.length,
    ¬Utf8.encode endMarker <+: (inner ++ Utf8.encode endMarker ++ back).drop n

/-- Bytes with a marker in them have a first one. -/
theorem exists_first (marker : List UInt8) {bytes : List UInt8}
    (h : ∃ p q, bytes = p ++ marker ++ q) :
    ∃ front rest, bytes = front ++ marker ++ rest ∧
      ∀ n < front.length, ¬marker <+: bytes.drop n := by
  induction bytes with
  | nil =>
    obtain ⟨p, q, hpq⟩ := h
    obtain ⟨hp, rfl⟩ := List.append_eq_nil_iff.1 hpq.symm
    obtain ⟨rfl, rfl⟩ := List.append_eq_nil_iff.1 hp
    exact ⟨[], [], rfl, nofun⟩
  | cons b bytes ih =>
    by_cases hprefix : marker <+: b :: bytes
    · obtain ⟨rest, hrest⟩ := hprefix
      exact ⟨[], rest, hrest.symm, nofun⟩
    · obtain ⟨p, q, hpq⟩ := h
      cases p with
      | nil => exact absurd ⟨q, hpq.symm⟩ hprefix
      | cons c p =>
        obtain ⟨front, rest, hparts, hfirst⟩ := ih ⟨p, q, (List.cons.inj hpq).2⟩
        refine ⟨b :: front, rest, congrArg (b :: ·) hparts, fun n hn => ?_⟩
        cases n with
        | zero => exact hprefix
        | succ n => exact hfirst n (Nat.lt_of_succ_lt_succ hn)

/-- **The zone lies somewhere** in the bytes exactly if a start marker stands in them and an end
marker behind it. -/
theorem nonempty_inBytes_iff {bytes : List UInt8} : Nonempty (InBytes bytes) ↔
    ∃ p i q, bytes = p ++ Utf8.encode startMarker ++ i ++ Utf8.encode endMarker ++ q := by
  constructor
  · rintro ⟨zone⟩
    refine ⟨zone.front, zone.inner, zone.back, zone.parts.trans ?_⟩
    simp only [List.append_assoc]
  · rintro ⟨p, i, q, h⟩
    have hp : bytes = p ++ Utf8.encode startMarker ++ (i ++ Utf8.encode endMarker ++ q) := by
      simpa only [List.append_assoc] using h
    obtain ⟨front, rest, hfront, firstStart⟩ := exists_first (Utf8.encode startMarker) ⟨p, _, hp⟩
    have hle : front.length ≤ p.length := by
      refine Nat.le_of_not_lt fun hlt => firstStart p.length hlt ?_
      rw [hp, List.append_assoc, List.drop_left]
      exact List.prefix_append _ _
    -- so the end marker is behind the first start marker, too
    obtain ⟨middle, hmiddle⟩ := Text.suffix_of_length_le (hfront.symm.trans hp) hle
    obtain ⟨inner, back, rfl, firstEnd⟩ := exists_first (Utf8.encode endMarker)
      ⟨middle ++ i, q, by simpa only [List.append_assoc] using hmiddle.symm⟩
    exact ⟨front, inner, back, hfront, firstStart, firstEnd⟩

/-! ## The zone in the text -/

/-- The markers are ASCII, so they can be found in bytes. -/
theorem markers_isAscii :
    startMarker.all CodePoint.isAscii = true ∧ endMarker.all CodePoint.isAscii = true := by
  decide

theorem startMarker_ne_nil : startMarker ≠ [] := List.cons_ne_nil _ _

theorem endMarker_ne_nil : endMarker ≠ [] := List.cons_ne_nil _ _

/-- **The zone in the bytes is the zone in the text**: the text in front of it has the bytes in
front of it, and the text behind it has those behind it. -/
theorem InBytes.exists_find? {bytes : List UInt8} (zone : InBytes bytes) {raw : Text}
    (h : Utf8.encode raw = bytes) :
    ∃ before after, find? raw = some (before, after) ∧ Utf8.encode before = zone.front ∧
      Utf8.encode after = zone.back := by
  subst h
  obtain ⟨before, rest, hstart, hbefore, hrest⟩ :=
    Utf8.exists_breakOn?_of_first markers_isAscii.1 startMarker_ne_nil zone.parts zone.firstStart
  obtain ⟨inner, after, hend, -, hafter⟩ :=
    Utf8.exists_breakOn?_of_first markers_isAscii.2 endMarker_ne_nil hrest
      (by rw [hrest]; exact zone.firstEnd)
  refine ⟨before, after, ?_, hbefore, hafter⟩
  rw [find?, hstart]
  simp only [hend]

/-- **The zone stays where it is** when the line ends are unified: they are unified in front of it
and behind it. -/
theorem find?_unify (t : Text) : find? (unify t) = (find? t).map (Prod.map unify unify) := by
  rw [find?, find?, Newline.breakOn?_unify startMarker_ne_nil (by decide)]
  cases Text.breakOn? startMarker t with
  | none => rfl
  | some parts =>
    simp only [Option.map_some, Prod.map_snd, Prod.map_fst]
    rw [Newline.breakOn?_unify endMarker_ne_nil (by decide)]
    cases Text.breakOn? endMarker parts.2 <;> rfl

/-- A document with a zone is up to date exactly if the list is in the zone. -/
theorem update_eq_self_iff {t before old after : Text} (h : find? t = some (before, after))
    (ht : t = before ++ startMarker ++ old ++ endMarker ++ after) :
    update t = some t ↔ old = inner := by
  rw [update, h, content_eq, ht]
  simp only [Option.map_some, Option.some.injEq, List.append_assoc, List.append_cancel_left_eq,
    List.append_cancel_right_eq]
  exact eq_comm

/-! ## Around the zone -/

variable {bytes : List UInt8} (zone : InBytes bytes)

/-- The bytes around the zone are kept, whatever is between them. -/
def InBytes.IsKept (written : List UInt8) : Prop :=
  ∃ list, written = zone.front ++ list ++ zone.back

/-- There is a carriage return in a text exactly if its byte is in the bytes of the text. -/
theorem mem_encode_carriageReturn {t : Text} : 0x0D ∈ Utf8.encode t ↔ carriageReturn ∈ t :=
  Utf8.mem_encode_iff (c := carriageReturn) (by decide)

/-- The text of a document, updated: the texts of the bytes around the zone are still around it,
with their line ends unified. -/
theorem InBytes.exists_update {raw : Text} (h : Utf8.decode bytes = .ok raw) :
    ∃ before after, Utf8.decode zone.front = .ok before ∧ Utf8.decode zone.back = .ok after ∧
      update (unify raw) = some (unify before ++ content ++ unify after) := by
  obtain ⟨before, after, hfind, hfront, hback⟩ := zone.exists_find? (Utf8.encode_of_decode h)
  have hscalar := Utf8.isSurrogate_of_decode h
  obtain ⟨inner, rfl, -⟩ := exists_of_find? hfind
  refine ⟨before, after, ?_, ?_, ?_⟩
  · rw [← hfront]
    exact Utf8.decode_encode fun c hc => hscalar c (by simp only [List.mem_append, hc, true_or])
  · rw [← hback]
    exact Utf8.decode_encode fun c hc => hscalar c (by simp only [List.mem_append, hc, or_true])
  · rw [update, find?_unify, hfind]
    rfl

/-- **The bytes around the zone of an updated text** are those around the zone of the document
exactly if there was no carriage return in these: there is none in what is written, and without
them there is nothing to unify. -/
theorem InBytes.isKept_iff {before after : Text} (hbefore : Utf8.decode zone.front = .ok before)
    (hafter : Utf8.decode zone.back = .ok after) :
    zone.IsKept (Utf8.encode (unify before ++ content ++ unify after)) ↔
      0x0D ∉ zone.front ∧ 0x0D ∉ zone.back := by
  constructor
  · rintro ⟨list, hlist⟩
    have hnone : 0x0D ∉ zone.front ++ list ++ zone.back := by
      rw [← hlist, mem_encode_carriageReturn]
      simp only [List.mem_append, not_or]
      exact ⟨⟨Newline.carriageReturn_notMem_unify before,
        fun h => (Refresh.isReadable_content _ h).1 rfl⟩, Newline.carriageReturn_notMem_unify after⟩
    simp only [List.mem_append, not_or] at hnone
    exact ⟨hnone.1.1, hnone.2⟩
  · rw [← Utf8.encode_of_decode hbefore, ← Utf8.encode_of_decode hafter, mem_encode_carriageReturn,
      mem_encode_carriageReturn]
    rintro ⟨hfront, hback⟩
    rw [Newline.unify_eq_self hfront, Newline.unify_eq_self hback]
    refine ⟨Utf8.encode content, ?_⟩
    rw [← Utf8.encode_of_decode hbefore, ← Utf8.encode_of_decode hafter, Utf8.encode_append,
      Utf8.encode_append]

end Zone

namespace Command

variable {files : FileTree} {path : FilePath}

/-- The text of a file with bytes that can be decoded. -/
theorem hasText_of_decode {bytes : List UInt8} {raw : Text} (hread : files.read path = .ok bytes)
    (hdecode : Utf8.decode bytes = .ok raw) : HasText files path (unify raw) := by
  refine ⟨bytes, hread, ?_⟩
  rw [Refresh.read, hdecode]
  rfl

/-- What a run that writes does to a file whose text can be updated. -/
theorem refresh_of_update {t u : Text} (text : HasText files path t)
    (update : Zone.update t = some u) :
    (refresh files path false).ending = .finished 0 ∧
      (¬IsCurrent files path →
        (refresh files path false).files.read path = .ok (Utf8.encode u)) := by
  cases condition files path with
  | unreadable none run => exact absurd ⟨t, text⟩ none
  | unmarked text' zone run =>
    obtain rfl := text.unique text'
    rw [Zone.update_eq_none_iff.2 zone] at update
    cases update
  | current text' zone update' run =>
    exact ⟨(run false).1, fun h => absurd ⟨_, text', update'⟩ h⟩
  | stale text' zone update' change checked written =>
    obtain rfl := text.unique text'
    obtain rfl := Option.some.inj (update.symm.trans update')
    obtain ⟨bytes, hbytes, -⟩ := text
    rw [written.1, written.2]
    exact ⟨rfl, fun _ => FileTree.read_write hbytes _⟩

variable {bytes : List UInt8} {raw : Text}

/-- **The bytes around the zone are kept** by a run that writes exactly if the document is up to
date, or there is no carriage return in them. -/
theorem exists_isKept_refresh_iff (hread : files.read path = .ok bytes)
    (hdecode : Utf8.decode bytes = .ok raw) (zone : Zone.InBytes bytes) :
    (∃ written, (refresh files path false).files.read path = .ok written ∧ zone.IsKept written) ↔
      IsCurrent files path ∨ 0x0D ∉ zone.front ∧ 0x0D ∉ zone.back := by
  obtain ⟨before, after, hbefore, hafter, hupdate⟩ := zone.exists_update hdecode
  have text := hasText_of_decode hread hdecode
  by_cases hcurrent : IsCurrent files path
  · refine iff_of_true ⟨bytes, ?_, ?_⟩ (.inl hcurrent)
    · rw [(refresh_of_isCurrent hcurrent false).2, hread]
    · refine ⟨Utf8.encode Zone.startMarker ++ zone.inner ++ Utf8.encode Zone.endMarker,
        zone.parts.trans ?_⟩
      simp only [List.append_assoc]
  · rw [(refresh_of_update text hupdate).2 hcurrent, or_iff_right hcurrent,
      ← zone.isKept_iff hbefore hafter]
    constructor
    · rintro ⟨written, hwritten, hkept⟩
      exact Except.ok.inj hwritten ▸ hkept
    · exact fun hkept => ⟨_, rfl, hkept⟩

/-- **Around the zone**, a run that writes changes line ends and nothing else. Take a document of
UTF-8 with a start marker and an end marker behind it, and so with a zone. A run that writes ends
well. If the document is up to date, all files are left as they are. If not, the document is the
list with the texts that were around the zone, and line feeds for all their line ends. So the bytes
around the zone are kept exactly if the document was up to date, or there is no carriage return in
them. -/
theorem run_around_zone {path : Text} {arguments : List Text}
    (hrequest : Request.ofArguments arguments = .ok (.refresh path false))
    (hread : files.read (.ofText path) = .ok bytes) (hdecode : Utf8.decode bytes = .ok raw)
    (hmarkers : ∃ p i q,
      bytes = p ++ Utf8.encode Zone.startMarker ++ i ++ Utf8.encode Zone.endMarker ++ q) :
    let target := FilePath.ofText path
    let outcome := run files arguments
    outcome.ending = .finished 0 ∧
    (IsCurrent files target → outcome.files = files) ∧
    Nonempty (Zone.InBytes bytes) ∧
    ∀ zone : Zone.InBytes bytes,
      (¬IsCurrent files target →
        ∃ before after, Utf8.decode zone.front = .ok before ∧ Utf8.decode zone.back = .ok after ∧
          outcome.files.read target = .ok (Utf8.encode (unify before) ++ Utf8.encode Zone.content
            ++ Utf8.encode (unify after))) ∧
      ((∃ written, outcome.files.read target = .ok written ∧ zone.IsKept written) ↔
        IsCurrent files target ∨ 0x0D ∉ zone.front ∧ 0x0D ∉ zone.back) := by
  intro target outcome
  have houtcome : outcome = refresh files target false := run_of_ofArguments hrequest files
  have hzone := Zone.nonempty_inBytes_iff.2 hmarkers
  have text := hasText_of_decode hread hdecode
  rw [houtcome]
  refine ⟨?_, fun h => (refresh_of_isCurrent h false).2, hzone, fun zone => ⟨fun h => ?_,
    exists_isKept_refresh_iff hread hdecode zone⟩⟩
  · obtain ⟨zone⟩ := hzone
    obtain ⟨before, after, -, -, hupdate⟩ := zone.exists_update hdecode
    exact (refresh_of_update text hupdate).1
  · obtain ⟨before, after, hbefore, hafter, hupdate⟩ := zone.exists_update hdecode
    refine ⟨before, after, hbefore, hafter, ?_⟩
    rw [(refresh_of_update text hupdate).2 h, Utf8.encode_append, Utf8.encode_append]

/-- Carriage returns between the markers are no obstacle: what is around the zone is kept. -/
theorem run_around_zone_of_inner_carriageReturn :
    let raw : Text := "é\n" ++ Zone.startMarker ++ ("\r\n" ++ Zone.endMarker ++ "\n")
    let files := FileTree.ofList [("README.md", Utf8.encode raw)]
    let outcome := run files []
    outcome.ending = .finished 0 ∧ ∃ list, outcome.files.read (.ofText "README.md")
      = .ok (Utf8.encode "é\n" ++ list ++ Utf8.encode "\n") := by
  intro raw files outcome
  have hrequest : Request.ofArguments [] = .ok (.refresh "README.md" false) := rfl
  have hread : files.read (.ofText "README.md") = .ok (Utf8.encode raw) := by rfl
  have hdecode : Utf8.decode (Utf8.encode raw) = .ok raw := Utf8.decode_encode (by decide)
  let zone : Zone.InBytes (Utf8.encode raw) :=
    { front := Utf8.encode "é\n"
      inner := Utf8.encode "\r\n"
      back := Utf8.encode "\n"
      parts := by simp only [raw, Utf8.encode_append]
      firstStart := by decide +kernel
      firstEnd := by decide +kernel }
  have hmarkers := Zone.nonempty_inBytes_iff.1 ⟨zone⟩
  obtain ⟨hending, -, -, haround⟩ := run_around_zone hrequest hread hdecode hmarkers
  have hnone : 0x0D ∉ zone.front ∧ 0x0D ∉ zone.back := by decide +kernel
  obtain ⟨written, hwritten, list, rfl⟩ := (haround zone).2.2 (.inr hnone)
  exact ⟨hending, list, hwritten⟩

/-- A document whose lines end with a carriage return and a line feed does not keep the bytes
around the zone. -/
theorem not_isKept_of_carriageReturn :
    let raw : Text := "# T\r\n" ++ Zone.startMarker
      ++ ("\r\nold\r\n" ++ Zone.endMarker ++ "\r\ntail\r\n")
    let files := FileTree.ofList [("README.md", Utf8.encode raw)]
    let outcome := run files []
    files.read (.ofText "README.md") = .ok (Utf8.encode raw) ∧
      Utf8.decode (Utf8.encode raw) = .ok raw ∧ outcome.ending = .finished 0 ∧
      ∃ zone : Zone.InBytes (Utf8.encode raw), ¬∃ written,
        outcome.files.read (.ofText "README.md") = .ok written ∧ zone.IsKept written := by
  intro raw files outcome
  have houtcome : outcome = refresh files (.ofText "README.md") false :=
    run_of_ofArguments (by rfl) files
  have hread : files.read (.ofText "README.md") = .ok (Utf8.encode raw) := by rfl
  have hdecode : Utf8.decode (Utf8.encode raw) = .ok raw := Utf8.decode_encode (by decide)
  let zone : Zone.InBytes (Utf8.encode raw) :=
    { front := Utf8.encode "# T\r\n"
      inner := Utf8.encode "\r\nold\r\n"
      back := Utf8.encode "\r\ntail\r\n"
      parts := by simp only [raw, Utf8.encode_append]
      firstStart := by decide +kernel
      firstEnd := by decide +kernel }
  have text := hasText_of_decode hread hdecode
  have hfind : Zone.find? (unify raw) = some (Text.ofString "# T\n", Text.ofString "\ntail\n") := by
    decide
  have hparts : unify raw
      = "# T\n" ++ Zone.startMarker ++ "\nold\n" ++ Zone.endMarker ++ "\ntail\n" := by decide
  -- the list is not in the zone, as it starts with an empty line there
  have hcurrent : ¬IsCurrent files (.ofText "README.md") := by
    rintro ⟨t, ht, hupdate⟩
    obtain rfl := ht.unique text
    have hold := (Zone.update_eq_self_iff hfind hparts).1 hupdate
    have hsecond := congrArg (·[1]?) hold
    revert hsecond
    exact (by decide : some (CodePoint.ofChar 'o') ≠ some (CodePoint.ofChar '\n'))
  have hreturn : ¬(0x0D ∉ zone.front ∧ 0x0D ∉ zone.back) := by decide +kernel
  obtain ⟨before, after, -, -, hupdate⟩ := zone.exists_update hdecode
  rw [houtcome]
  exact ⟨hread, hdecode, (refresh_of_update text hupdate).1, zone, fun hkept =>
    ((exists_isKept_refresh_iff hread hdecode zone).1 hkept).elim hcurrent hreturn⟩

end Command

end HtmlDiagnostics.RuleList
