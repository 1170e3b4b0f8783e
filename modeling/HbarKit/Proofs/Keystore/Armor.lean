import HbarKit.Keystore.Armor
import HbarKit.Proofs.Bytes.Base64
import HbarKit.Proofs.Text.Split

/-!
# Reading armored text

The text of a block has a marker wherever the reader looks for one and no character of a marker
before it: there are no dashes in labels and data. Between the markers there is nothing but lines
with something in them, so no headers are found, and without the line ends the lines are the data.
-/
namespace HbarKit.Armor

/-! ## Markers -/

variable {m : Char} {more front before cs : List Char}

/-- Characters that do not begin the marker are passed over. -/
theorem seek_front (h : m ∉ front) :
    seek (m :: more) (m :: more) before (front ++ cs) =
      seek (m :: more) (m :: more) (front.reverse ++ before) cs := by
  induction front generalizing before with
  | nil => rfl
  | cons c front ih =>
    obtain ⟨hc, hfront⟩ := List.ne_and_not_mem_of_not_mem_cons h
    rw [List.cons_append, seek, if_neg (Ne.symm hc), ih hfront]
    simp

/-- What is missing of a marker is taken. -/
theorem seek_missing (marker : List Char) :
    seek marker (m :: more) before (m :: more ++ cs) =
      some ((((m :: more).dropLast.reverse ++ before).drop (marker.length - 1)).reverse, cs) := by
  induction more generalizing m before with
  | nil =>
    rw [List.cons_append, seek, if_pos rfl]
    rfl
  | cons n more ih =>
    rw [List.cons_append, seek, if_pos rfl, List.isEmpty_cons, if_neg (by simp), ih]
    simp

/-- The text before and behind a marker whose first character does not come before it. -/
theorem seek_marker (h : m ∉ front) :
    seek (m :: more) (m :: more) [] (front ++ (m :: more ++ cs)) = some (front, cs) := by
  have hdrop : ((m :: more).dropLast.reverse ++ front.reverse).drop ((m :: more).length - 1) =
      front.reverse := List.drop_left' (by simp)
  rw [seek_front h, seek_missing, List.append_nil, hdrop, List.reverse_reverse]

theorem find?_append (marker : String) (hmarker : marker.toList.head? = some m) (h : m ∉ front)
    (cs : List Char) : find? marker (front ++ (marker.toList ++ cs)) = some (front, cs) := by
  obtain ⟨more, hcons⟩ := List.head?_eq_some_iff.mp hmarker
  rw [find?, hcons, seek_marker h]

/-- There is no marker where its first character does not come. -/
theorem seek_eq_none (h : m ∉ cs) : seek (m :: more) (m :: more) before cs = none := by
  have hend : seek (m :: more) (m :: more) before (cs ++ []) =
      seek (m :: more) (m :: more) (cs.reverse ++ before) [] := seek_front h
  rw [List.append_nil] at hend
  rw [hend]
  rfl

/-! ## Lines of data -/

variable {width count : Nat}

theorem wrap_succ_of_ne_nil (h : cs ≠ []) :
    wrap width (count + 1) cs = cs.take width ++ '\n' :: wrap width count (cs.drop width) := by
  rw [wrap, if_neg (by simpa using h)]

/-- Without the line ends the lines are what was written. -/
theorem filter_wrap (hwidth : 0 < width) (hcs : ∀ c ∈ cs, Text.isBlank c = false)
    (hcount : cs.length ≤ count) :
    (wrap width count cs).filter (fun c => !Text.isBlank c) = cs := by
  induction count generalizing cs with
  | zero =>
    rw [List.length_eq_zero_iff.mp (Nat.le_zero.mp hcount)]
    rfl
  | succ count ih =>
    by_cases hnil : cs = []
    · rw [hnil]
      rfl
    · have hline : (cs.take width).filter (fun c => !Text.isBlank c) = cs.take width := by
        rw [List.filter_eq_self]
        intro c hc
        simp [hcs c (List.mem_of_mem_take hc)]
      have hblank : ∀ c ∈ cs.drop width, Text.isBlank c = false :=
        fun c hc => hcs c (List.mem_of_mem_drop hc)
      have hrest := ih hblank (by rw [List.length_drop]; omega)
      have hend : Text.isBlank '\n' = true := by decide
      rw [wrap_succ_of_ne_nil hnil, List.filter_append, hline,
        List.filter_cons_of_neg (by simp [hend]), hrest, List.take_append_drop]

theorem not_mem_wrap {c : Char} (hline : c ≠ '\n') (hcs : c ∉ cs) : c ∉ wrap width count cs := by
  induction count generalizing cs with
  | zero => simp [wrap]
  | succ count ih =>
    by_cases hnil : cs = []
    · simp [wrap, hnil]
    · rw [wrap_succ_of_ne_nil hnil, List.mem_append, List.mem_cons]
      rintro (hc | hc | hc)
      · exact hcs (List.mem_of_mem_take hc)
      · exact hline hc
      · exact ih (fun hdrop => hcs (List.mem_of_mem_drop hdrop)) hc

/-- There are no two line ends in a row, and none at the beginning either. -/
theorem seek_wrap_eq_none (hwidth : 0 < width) (hcs : '\n' ∉ cs) (before : List Char) :
    seek ['\n', '\n'] ['\n', '\n'] before (wrap width count cs) = none ∧
      seek ['\n', '\n'] ['\n'] before (wrap width count cs) = none := by
  induction count generalizing cs before with
  | zero => exact ⟨rfl, rfl⟩
  | succ count ih =>
    by_cases hnil : cs = []
    · rw [hnil]
      exact ⟨rfl, rfl⟩
    · have hline (line before : List Char) (h : '\n' ∉ line) :
          seek ['\n', '\n'] ['\n', '\n'] before
            (line ++ '\n' :: wrap width count (cs.drop width)) = none := by
        rw [seek_front h, seek, if_pos rfl]
        exact (ih (fun hdrop => hcs (List.mem_of_mem_drop hdrop)) _).2
      have htake : '\n' ∉ cs.take width := fun hmem => hcs (List.mem_of_mem_take hmem)
      rw [wrap_succ_of_ne_nil hnil]
      refine ⟨hline _ _ htake, ?_⟩
      -- The first character of a line is no line end, so the search starts again behind it.
      obtain ⟨c, line, hcons⟩ := List.exists_cons_of_ne_nil
        (show cs.take width ≠ [] by simp [hnil, Nat.ne_of_gt hwidth])
      rw [hcons] at htake ⊢
      obtain ⟨hc, hrest⟩ := List.ne_and_not_mem_of_not_mem_cons htake
      rw [List.cons_append, seek, if_neg (Ne.symm hc)]
      exact hline line _ hrest

/-! ## Blocks -/

/-- A label that can be told from what stands around it. -/
structure IsLabel (label : String) : Prop where
  ne_nil : label.toList ≠ []
  ne_dash : '-' ∉ label.toList

/-- The lines that a block is written in. -/
def body (a : Armor) : List Char :=
  wrap 64 (Base64.encode a.contents).length (Base64.encode a.contents)

theorem isData_of_mem_body {a : Armor} {c : Char} (h : c ∈ a.body) :
    c = '\n' ∨ Base64.IsData c := by
  by_contra hnot
  obtain ⟨hline, hdata⟩ := not_or.mp hnot
  exact not_mem_wrap hline (fun hc => hdata (Base64.isData_of_mem_encode hc)) h

theorem find?_body (a : Armor) : (find? "\n\n" a.body <|> find? "\r\n\r\n" a.body) = none := by
  have hblank : ∀ c ∈ Base64.encode a.contents, Text.isBlank c = false :=
    fun c hc => (Base64.isData_of_mem_encode hc).not_blank
  have hfeed : '\n' ∉ Base64.encode a.contents := by
    intro hc
    cases hblank _ hc
  have hreturn : '\r' ∉ a.body := by
    intro hc
    obtain heq | hdata := isData_of_mem_body hc
    · cases heq
    · cases hdata.not_blank
  have hfirst : find? "\n\n" a.body = none := (seek_wrap_eq_none (by decide) hfeed []).1
  have hsecond : find? "\r\n\r\n" a.body = none := seek_eq_none hreturn
  rw [hfirst, hsecond]
  rfl

/-- The lines begin with data, not with blanks that could be passed over. -/
theorem dropWhile_body (a : Armor) (rest : List Char) :
    ('\n' :: (a.body ++ '-' :: rest)).dropWhile
        (fun c => c = ' ' ∨ c = '\t' ∨ c = '\n' ∨ c = '\r') = a.body ++ '-' :: rest := by
  rw [List.dropWhile_cons_of_pos (by simp)]
  have hdata := fun c => Base64.isData_of_mem_encode (b := a.contents) (c := c)
  rw [body]
  cases hencode : Base64.encode a.contents with
  | nil => rfl
  | cons c cs =>
    rw [hencode] at hdata
    have hblank := (hdata c List.mem_cons_self).not_blank
    have hstop : ¬ (c = ' ' ∨ c = '\t' ∨ c = '\n' ∨ c = '\r') := by
      rintro (rfl | rfl | rfl | rfl) <;> cases hblank
    rw [List.length_cons, wrap_succ_of_ne_nil (List.cons_ne_nil c cs), List.take_succ_cons,
      List.cons_append, List.cons_append, List.dropWhile_cons_of_neg (by simpa using hstop)]

/-- A block falls into the parts it was written in. -/
theorem frame?_chars {a : Armor} (h : IsLabel a.label) :
    frame? a.chars = some ⟨a.label.toList, [], a.body, a.label.toList⟩ := by
  have hdash : '-' ∉ a.body := by
    intro hc
    obtain heq | hdata := isData_of_mem_body hc
    · cases heq
    · exact hdata.ne_dash rfl
  have hmark : "-----\n".toList = "-----".toList ++ ['\n'] := rfl
  have hchars : a.chars = [] ++ ("-----BEGIN ".toList ++ (a.label.toList ++ ("-----".toList ++
      '\n' :: (a.body ++ ("-----END ".toList ++
        (a.label.toList ++ ("-----".toList ++ ['\n']))))))) := by
    have hwritten : a.chars = "-----BEGIN ".toList ++ a.label.toList ++ "-----\n".toList ++
        a.body ++ "-----END ".toList ++ a.label.toList ++ "-----\n".toList := rfl
    rw [hwritten, hmark]
    simp only [List.append_assoc, List.nil_append, List.cons_append]
  have hbegin := find?_append "-----BEGIN " rfl (List.not_mem_nil (a := '-'))
  have hlabel := find?_append "-----" rfl h.ne_dash
  have hbody := find?_append "-----END " rfl hdash
  have hskip := fun cs => dropWhile_body a ("----END ".toList ++ cs)
  have hend : "-----END ".toList = '-' :: "----END ".toList := rfl
  rw [hchars, frame?, hbegin]
  simp only [Option.bind_eq_bind, Option.bind_some, hlabel]
  rw [hend, List.cons_append, hskip, ← List.cons_append, ← hend, hbody]
  simp only [Option.bind_some, hlabel, find?_body]
  rfl

/-- A block is read from its text. -/
theorem parse_text {a : Armor} (h : IsLabel a.label) : parse a.text = .ok a := by
  have hblank : ∀ c ∈ Base64.encode a.contents, Text.isBlank c = false :=
    fun c hc => (Base64.isData_of_mem_encode hc).not_blank
  have hdata : a.body.filter (fun c => !Text.isBlank c) = Base64.encode a.contents :=
    filter_wrap (by decide) hblank le_rfl
  have hheaders : (lines []).find? (fun line => !line.contains ':') = none := rfl
  rw [parse, text, String.toList_ofList, frame?_chars h]
  simp only [hdata, Base64.decode?_encode, hheaders]
  simp [h.ne_nil]

end HbarKit.Armor
