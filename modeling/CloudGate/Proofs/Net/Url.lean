import CloudGate.Net.Url
import CloudGate.Proofs.Text.Percent
import CloudGate.Proofs.Text.Split
import CloudGate.Proofs.Verdict

/-!
Addresses that are made of a base and a path behind it.

* `PathPiece`: what stands between two slashes of such a path, and is read as it is written.
* `resolve_append`: dot segments of the base do not reach into the path, nor the path into the base.
* `parse_append`: the address has the parts of its base, and the path goes on where that of the base
  ends.
-/

namespace CloudGate.Net.Url

open Text

/-! ## Pieces of a path -/

/-- The encoding of a text that is neither empty nor a directory. -/
inductive PathPiece : List Char → Prop
  | encoded {cs : List Char} (hempty : cs ≠ []) (hcurrent : cs ≠ ['.'])
    (hparent : cs ≠ ['.', '.']) : PathPiece (percentEncode cs)

theorem PathPiece.of_unreserved {cs : List Char} (h : ∀ c ∈ cs, isUnreserved c = true)
    (hempty : cs ≠ []) (hcurrent : cs ≠ ['.']) (hparent : cs ≠ ['.', '.']) : PathPiece cs := by
  rw [← percentEncode_of_unreserved h]
  exact .encoded hempty hcurrent hparent

theorem isPathChar_of_isUnreserved {c : Char} (h : isUnreserved c = true) :
    isPathChar c = true := by
  have hascii : isAscii c = true := by
    have hbounds : c.val.toNat < 0x80 := by
      have halphanum : c.isAlphanum = (c.isUpper || c.isLower || c.isDigit) := rfl
      have hupper : c.isUpper = decide (c.val ≥ 'A'.val ∧ c.val ≤ 'Z'.val) := rfl
      have hlower : c.isLower = (decide (c.val ≥ 'a'.val) && decide (c.val ≤ 'z'.val)) := rfl
      simp only [isUnreserved, halphanum, hupper, hlower, Char.isDigit, Bool.or_eq_true,
        Bool.and_eq_true, decide_eq_true_eq, beq_iff_eq, UInt32.le_iff_toNat_le, ge_iff_le] at h
      rcases h with ((((h | h) | rfl) | rfl) | rfl) | rfl
      · rcases h with ⟨-, h⟩ | ⟨-, h⟩
        · exact Nat.lt_of_le_of_lt h (by decide)
        · exact Nat.lt_of_le_of_lt h (by decide)
      · exact Nat.lt_of_le_of_lt h.2 (by decide)
      · decide
      · decide
      · decide
      · decide
    exact decide_eq_true hbounds
  exact forall_ascii (P := fun c => isUnreserved c = true → isPathChar c = true) (by decide)
    hascii h

/-- What is encoded already is not encoded again. -/
theorem percentEncodeBut_escaped {cs : List Char} (h : Escaped cs) :
    percentEncodeBut isPathChar cs = cs := by
  unfold percentEncodeBut
  induction h with
  | nil => rfl
  | plain hc _ ih =>
    rw [List.flatMap_cons, if_pos (isPathChar_of_isUnreserved hc), ih]
    rfl
  | escape ha hb _ ih =>
    have hpath := fun {c : Char} (hc : (hexDigitValue? c).isSome = true) =>
      isPathChar_of_isUnreserved (isUnreserved_of_hexDigit hc)
    rw [List.flatMap_cons, List.flatMap_cons, List.flatMap_cons, if_pos (by decide),
      if_pos (hpath ha), if_pos (hpath hb), ih]
    rfl

theorem char_of_escaped {cs : List Char} (h : Escaped cs) {c : Char} (hc : c ∈ cs) :
    isUnreserved c = true ∨ c = '%' := by
  induction h with
  | nil => contradiction
  | plain hfirst _ ih =>
    rcases List.mem_cons.mp hc with rfl | hc
    · exact Or.inl hfirst
    · exact ih hc
  | escape ha hb _ ih =>
    rcases List.mem_cons.mp hc with rfl | hc
    · exact Or.inr rfl
    rcases List.mem_cons.mp hc with rfl | hc
    · exact Or.inl (isUnreserved_of_hexDigit ha)
    rcases List.mem_cons.mp hc with rfl | hc
    · exact Or.inl (isUnreserved_of_hexDigit hb)
    · exact ih hc

theorem plainDots_cons {c : Char} (h : c ≠ '%') (rest : List Char) :
    plainDots.go (c :: rest) = c :: plainDots.go rest := by
  rw [plainDots.go]
  rintro e more rfl
  exact absurd rfl h

/-- Only the byte of a dot is taken for a dot. -/
theorem plainDots_percentByte {b : Nat} (h : b < 256) (hdot : b ≠ 46) (rest : List Char) :
    plainDots.go (percentByte b ++ rest) = percentByte b ++ plainDots.go rest := by
  have hpercent : ∀ n < 16, upperHexDigit n ≠ '%' := by decide
  have htwo : ∀ n < 16, upperHexDigit n = '2' → n = 2 := by decide
  have hfourteen : ∀ n < 16, upperHexDigit n = 'e' ∨ upperHexDigit n = 'E' → n = 14 := by decide
  have hhigh : b / 16 < 16 := by omega
  have hlow : b % 16 < 16 := by omega
  unfold percentByte
  simp only [List.cons_append, List.nil_append]
  by_cases hfirst : upperHexDigit (b / 16) = '2'
  · have hsecond : ¬ (upperHexDigit (b % 16) = 'e' ∨ upperHexDigit (b % 16) = 'E') := by
      intro hdigit
      have hb := htwo _ hhigh hfirst
      have hb' := hfourteen _ hlow hdigit
      omega
    rw [hfirst, plainDots.go, if_neg hsecond]
  · rw [plainDots.go, plainDots_cons (hpercent _ hhigh), plainDots_cons (hpercent _ hlow)]
    intro e more _ heq
    exact hfirst (List.cons.inj heq).1

theorem plainDots_percentBytes {bytes : List Nat} (h : ∀ b ∈ bytes, b < 256 ∧ b ≠ 46)
    (rest : List Char) :
    plainDots.go (bytes.flatMap percentByte ++ rest) =
      bytes.flatMap percentByte ++ plainDots.go rest := by
  induction bytes with
  | nil => rfl
  | cons b more ih =>
    obtain ⟨hb, hmore⟩ := List.forall_mem_cons.mp h
    rw [List.flatMap_cons, List.append_assoc, plainDots_percentByte hb.1 hb.2, ih hmore,
      List.append_assoc]

/-- A dot is never encoded, and no other character has its byte. -/
theorem utf8_ne_dot {c : Char} (h : c ≠ '.') : ∀ b ∈ utf8 c, b ≠ 46 := by
  have hdot : c.toNat ≠ 46 := by
    intro hn
    exact h (Char.toNat_inj.mp hn)
  intro b hb
  unfold utf8 at hb
  simp only at hb
  split at hb
  · rw [List.mem_singleton.mp hb]
    exact hdot
  · split at hb
    · simp only [List.mem_cons, List.not_mem_nil, or_false] at hb
      omega
    · split at hb
      · simp only [List.mem_cons, List.not_mem_nil, or_false] at hb
        omega
      · simp only [List.mem_cons, List.not_mem_nil, or_false] at hb
        omega

theorem plainDots_percentEncode (cs : List Char) :
    plainDots (percentEncode cs) = percentEncode cs := by
  show plainDots.go (percentEncode cs) = percentEncode cs
  induction cs with
  | nil => rfl
  | cons c rest ih =>
    rw [percentEncode_cons]
    split
    · rename_i hc
      rw [List.singleton_append, plainDots_cons (ne_of_isUnreserved hc (by decide)), ih]
    · rename_i hc
      have hbytes : ∀ b ∈ utf8 c, b < 256 ∧ b ≠ 46 := by
        have hdot : c ≠ '.' := by
          rintro rfl
          exact hc (by decide)
        exact fun b hb => ⟨utf8_lt c b hb, utf8_ne_dot hdot b hb⟩
      rw [percentChar, plainDots_percentBytes hbytes, ih]

namespace PathPiece

variable {piece : List Char} (h : PathPiece piece)
include h

theorem escaped : Escaped piece := by
  cases h with
  | encoded => exact percentEncode_escaped _

/-- A piece is no directory, not even one in percent-encoding. -/
theorem not_directory : plainDots piece ≠ ['.'] ∧ plainDots piece ≠ ['.', '.'] := by
  cases h with
  | @encoded cs hempty hcurrent hparent =>
    rw [plainDots_percentEncode]
    exact ⟨fun heq => hcurrent (percentEncode_injective heq),
      fun heq => hparent (percentEncode_injective heq)⟩

theorem plain : ∀ c ∈ piece, 0x20 < c.toNat ∧ isSlash true c = false ∧ c ≠ '?' ∧ c ≠ '#' := by
  intro c hc
  have hpath : isPathChar c = true := by
    rcases char_of_escaped h.escaped hc with hunreserved | rfl
    · exact isPathChar_of_isUnreserved hunreserved
    · rfl
  have hlow : 0x20 < c.toNat := by
    simp only [isPathChar, Bool.and_eq_true, decide_eq_true_eq] at hpath
    exact hpath.1.1
  have hne : ∀ d, isUnreserved d = false → d ≠ '%' → c ≠ d := fun d hd hpercent =>
    ne_of_mem_of_not_mem hc (h.escaped.not_mem hd hpercent)
  refine ⟨hlow, ?_, hne '?' (by decide) (by decide), hne '#' (by decide) (by decide)⟩
  have hslash := hne '/' (by decide) (by decide)
  have hback := hne '\\' (by decide) (by decide)
  simp [isSlash, hslash, hback]

end PathPiece

/-! ## Segments -/

theorem splitSegments_ne_nil (web : Bool) (cs : List Char) : splitSegments web cs ≠ [] := by
  cases cs with
  | nil => exact List.cons_ne_nil _ _
  | cons c rest =>
    rw [splitSegments]
    split
    · exact List.cons_ne_nil _ _
    · split
      · exact List.cons_ne_nil _ _
      · exact List.cons_ne_nil _ _

theorem splitSegments_append (web : Bool) (cs ds : List Char) :
    splitSegments web (cs ++ '/' :: ds) = splitSegments web cs ++ splitSegments web ds := by
  induction cs with
  | nil => rfl
  | cons c rest ih =>
    rw [List.cons_append, splitSegments, splitSegments]
    split
    · rw [ih]
      rfl
    · rw [ih]
      cases hrest : splitSegments web rest with
      | nil => exact absurd hrest (splitSegments_ne_nil web rest)
      | cons segment more => rfl

theorem splitSegments_plain {web : Bool} {piece : List Char}
    (h : ∀ c ∈ piece, isSlash web c = false) : splitSegments web piece = [piece] := by
  induction piece with
  | nil => rfl
  | cons c rest ih =>
    obtain ⟨hc, hrest⟩ := List.forall_mem_cons.mp h
    rw [splitSegments, if_neg (by simp [hc]), ih hrest]

/-- Each piece behind a slash is a segment of its own. -/
theorem splitSegments_pieces {pieces : List (List Char)} (h : ∀ piece ∈ pieces, PathPiece piece)
    (cs : List Char) :
    splitSegments true (cs ++ pieces.flatMap ('/' :: ·)) = splitSegments true cs ++ pieces := by
  induction pieces generalizing cs with
  | nil => rw [List.flatMap_nil, List.append_nil, List.append_nil]
  | cons piece rest ih =>
    obtain ⟨hpiece, hrest⟩ := List.forall_mem_cons.mp h
    have hone := splitSegments_plain fun c hc => (hpiece.plain c hc).2.1
    rw [List.flatMap_cons, List.cons_append, splitSegments_append, ih hrest, hone]
    rfl

/-- A segment that is no directory is kept. -/
theorem resolve_keep {segment : List Char} (hcurrent : plainDots segment ≠ ['.'])
    (hparent : plainDots segment ≠ ['.', '.']) (done rest : List (List Char)) :
    resolve done (segment :: rest) =
      resolve (percentEncodeBut isPathChar segment :: done) rest := by
  rw [resolve.eq_def]
  simp only
  split
  · exact absurd ‹_› hparent
  · exact absurd ‹plainDots segment = ['.', '.']› hparent
  · exact absurd ‹_› hcurrent
  · exact absurd ‹plainDots segment = ['.']› hcurrent
  · rfl

/-- What a segment makes of those before it. A directory at the end leaves an empty segment. -/
theorem resolve_cons (done : List (List Char)) (segment : List Char) :
    ∃ next : List (List Char),
      (resolve done [segment] = next.reverse ∨ resolve done [segment] = next.reverse ++ [[]]) ∧
        ∀ rest, rest ≠ [] → resolve done (segment :: rest) = resolve next rest := by
  by_cases hparent : plainDots segment = ['.', '.']
  · refine ⟨done.drop 1, Or.inr ?_, fun rest hrest => ?_⟩
    · simp [resolve, hparent]
    · obtain ⟨next, more, rfl⟩ := List.exists_cons_of_ne_nil hrest
      rw [resolve.eq_def]
      simp [hparent]
  by_cases hcurrent : plainDots segment = ['.']
  · refine ⟨done, Or.inr ?_, fun rest hrest => ?_⟩
    · simp [resolve, hcurrent]
    · obtain ⟨next, more, rfl⟩ := List.exists_cons_of_ne_nil hrest
      rw [resolve.eq_def]
      simp [hcurrent]
  · exact ⟨_, Or.inl (resolve_keep hcurrent hparent done []),
      fun rest _ => resolve_keep hcurrent hparent done rest⟩

/-- Pieces are kept as they are. -/
theorem resolve_pieces {pieces : List (List Char)} (h : ∀ piece ∈ pieces, PathPiece piece)
    (done : List (List Char)) : resolve done pieces = done.reverse ++ pieces := by
  induction pieces generalizing done with
  | nil => rw [resolve, List.append_nil]
  | cons piece rest ih =>
    obtain ⟨hpiece, hrest⟩ := List.forall_mem_cons.mp h
    obtain ⟨hcurrent, hparent⟩ := hpiece.not_directory
    rw [resolve_keep hcurrent hparent, percentEncodeBut_escaped hpiece.escaped, ih hrest,
      List.reverse_cons, List.append_assoc]
    rfl

/-- Where the segments of a base end, the pieces go on. -/
theorem resolve_append {base : List (List Char)} (hbase : base ≠ []) (done : List (List Char)) :
    ∃ front, (resolve done base = front ∨ resolve done base = front ++ [[]]) ∧
      ∀ pieces, pieces ≠ [] → (∀ piece ∈ pieces, PathPiece piece) →
        resolve done (base ++ pieces) = front ++ pieces := by
  induction base generalizing done with
  | nil => contradiction
  | cons segment rest ih =>
    obtain ⟨next, hlast, hmore⟩ := resolve_cons done segment
    cases rest with
    | nil =>
      refine ⟨next.reverse, hlast, fun pieces hpieces hplain => ?_⟩
      exact (hmore pieces hpieces).trans (resolve_pieces hplain next)
    | cons segment' rest =>
      obtain ⟨front, hfront, hgo⟩ := ih (List.cons_ne_nil _ _) next
      refine ⟨front, ?_, fun pieces hpieces hplain => ?_⟩
      · rw [hmore _ (List.cons_ne_nil _ _)]
        exact hfront
      · exact (hmore _ (List.cons_ne_nil _ _)).trans (hgo pieces hpieces hplain)

/-! ## Paths -/

/-- The text of a path with these segments. -/
def pathText (segments : List (List Char)) : String :=
  String.join (segments.map fun segment => "/" ++ String.ofList segment)

theorem toList_pathText (segments : List (List Char)) :
    (pathText segments).toList = segments.flatMap ('/' :: ·) := by
  simp only [pathText, String.toList_join, List.flatMap_map, String.toList_append,
    String.toList_ofList]
  rfl

theorem pathText_append (front back : List (List Char)) :
    pathText (front ++ back) = pathText front ++ pathText back := by
  apply String.toList_inj.mp
  rw [String.toList_append, toList_pathText, toList_pathText, toList_pathText, List.flatMap_append]

/-- A path that begins with a slash is read from behind it. -/
theorem readPath_cons {c : Char} (hc : isSlash true c = true) (after : List Char) :
    readPath true (c :: after) = pathText (resolve [] (splitSegments true after)) := by
  simp [readPath, hc, pathText]

/-- The path of a base with a path behind it. The path of the base ends in a slash of its own if
there is nothing else at its end. -/
theorem readPath_append {cs : List Char} (hcs : ∀ c, cs.head? = some c → isSlash true c = true)
    {pieces : List (List Char)} (hpieces : pieces ≠ []) (h : ∀ piece ∈ pieces, PathPiece piece) :
    ∃ front, (readPath true cs = front ∨ readPath true cs = front ++ "/") ∧
      readPath true (cs ++ (pathText pieces).toList) = front ++ pathText pieces := by
  rw [toList_pathText]
  cases cs with
  | nil =>
    obtain ⟨piece, rest, rfl⟩ := List.exists_cons_of_ne_nil hpieces
    obtain ⟨hpiece, hrest⟩ := List.forall_mem_cons.mp h
    refine ⟨"", Or.inr rfl, ?_⟩
    have hone := splitSegments_plain fun c hc => (hpiece.plain c hc).2.1
    rw [List.nil_append, List.flatMap_cons, List.cons_append, readPath_cons rfl,
      splitSegments_pieces hrest, hone, List.singleton_append, resolve_pieces h]
    rfl
  | cons c after =>
    obtain ⟨front, hfront, hgo⟩ := resolve_append (splitSegments_ne_nil true after) []
    have hc := hcs c rfl
    refine ⟨pathText front, ?_, ?_⟩
    · rw [readPath_cons hc]
      rcases hfront with hsame | hslash
      · exact Or.inl (by rw [hsame])
      · exact Or.inr (by rw [hslash, pathText_append]; rfl)
    · rw [List.cons_append, readPath_cons hc, splitSegments_pieces h, hgo pieces hpieces h,
        pathText_append]

/-! ## Whole addresses -/

/-- Text without blanks and control characters has nothing to clean. -/
theorem clean_of_plain {cs : List Char} (h : ∀ c ∈ cs, 0x20 < c.toNat) : clean cs = cs := by
  have hedge : ∀ ds : List Char, (∀ c ∈ ds, 0x20 < c.toNat) →
      ds.dropWhile (fun c => decide (c.toNat ≤ 0x20)) = ds := by
    intro ds hds
    cases ds with
    | nil => rfl
    | cons d rest =>
      have hd := hds d (List.mem_cons_self ..)
      exact List.dropWhile_cons_of_neg (by simpa using hd)
  have hkeep : ∀ c ∈ cs, (c != '\t' && c != '\n' && c != '\r') = true := by
    intro c hc
    have hlow := h c hc
    have hne : ∀ d : Char, d.toNat ≤ 0x20 → c ≠ d := by
      rintro d hd rfl
      omega
    simp [hne '\t' (by decide), hne '\n' (by decide), hne '\r' (by decide)]
  unfold clean
  simp only [hedge cs h]
  rw [hedge cs.reverse fun c hc => h c (List.mem_reverse.mp hc), List.reverse_reverse]
  exact List.filter_eq_self.mpr hkeep

theorem cutAt_of_not_mem {c : Char} {cs : List Char} (h : c ∉ cs) : cutAt c cs = (cs, none) := by
  rw [cutAt, splitFirst?_of_not_mem h]

/-- The scheme ends at its colon, whatever comes behind. -/
theorem readScheme?_append {cs : List Char} {scheme : String} {rest : List Char}
    (h : readScheme? cs = some (scheme, rest)) (ds : List Char) :
    readScheme? (cs ++ ds) = some (scheme, rest ++ ds) := by
  unfold readScheme? at h ⊢
  generalize
    (fun c : Char => c.isAlphanum || c == '+' || c == '-' || c == '.') = isSchemeChar at h ⊢
  simp only at h ⊢
  split at h
  · rename_i first after hfirst hcolon
    have hdrop : (cs ++ ds).dropWhile isSchemeChar = ':' :: (after ++ ds) := by
      rw [List.dropWhile_append, hcolon]
      rfl
    have htake : (cs ++ ds).takeWhile isSchemeChar = cs.takeWhile isSchemeChar := by
      have hlength : (cs.takeWhile isSchemeChar).length ≠ cs.length := by
        intro hlength
        have hsum := congrArg List.length (@List.takeWhile_append_dropWhile _ isSchemeChar cs)
        rw [List.length_append, hcolon, List.length_cons] at hsum
        omega
      rw [List.takeWhile_append, if_neg hlength]
    have hhead : (cs ++ ds).head? = some first := by
      rw [List.head?_append, hfirst]
      rfl
    rw [hdrop, hhead, htake]
    simp only
    split at h
    · rename_i hletter
      obtain ⟨rfl, rfl⟩ := Prod.mk.inj (Option.some.inj h)
      exact if_pos hletter
    · contradiction
  · contradiction

theorem readScheme?_suffix {cs : List Char} {scheme : String} {rest : List Char}
    (h : readScheme? cs = some (scheme, rest)) : rest <:+ cs := by
  unfold readScheme? at h
  simp only at h
  split at h
  · rename_i first after _ hcolon
    split at h
    · obtain ⟨-, rfl⟩ := Prod.mk.inj (Option.some.inj h)
      have hsuffix := List.dropWhile_suffix (l := cs)
        fun c : Char => c.isAlphanum || c == '+' || c == '-' || c == '.'
      rw [hcolon] at hsuffix
      exact (List.suffix_cons ':' after).trans hsuffix
    · contradiction
  · contradiction

/-- On the web there is a host, and something of it behind the name of a user. -/
theorem readAuthority_host {scheme : String} (hweb : isWeb scheme = true) {authority : List Char}
    {host : Option Host} {port : Option Nat}
    (h : readAuthority scheme authority = .ok (host, port)) :
    host.isSome = true ∧ authority ≠ [] ∧ authority.getLast? ≠ some '@' := by
  unfold readAuthority at h
  simp only [hweb, Bool.true_or, Bool.and_true] at h
  cases hempty : (takeHost false (afterCredentials authority).2).1.isEmpty with
  | true =>
    rw [hempty] at h
    contradiction
  | false =>
    rw [hempty] at h
    obtain ⟨host', -, h⟩ := bind_eq_ok.mp h
    obtain ⟨port', -, h⟩ := bind_eq_ok.mp h
    obtain ⟨rfl, -⟩ := Prod.mk.inj (Except.ok.inj h)
    refine ⟨rfl, ?_, fun hlast => ?_⟩
    · rintro rfl
      exact absurd hempty (by decide)
    obtain ⟨front, rfl⟩ := List.getLast?_eq_some_iff.mp hlast
    have hnothing : (afterCredentials (front ++ ['@'])).2 = [] := by
      simp [afterCredentials]
    rw [hnothing] at hempty
    contradiction

theorem assemble_of_plain (scheme : String) (host : Option Host) (port : Option Nat)
    (path : List Char → String) {cs : List Char} (hquery : '?' ∉ cs) (hfragment : '#' ∉ cs) :
    assemble scheme host port path cs = { scheme, host, port, path := path cs } := by
  unfold assemble
  rw [cutAt_of_not_mem hfragment]
  simp only [cutAt_of_not_mem hquery]
  rfl

/-- What is taken up to some character is taken as well if that character comes at the end. -/
theorem takeWhile_append_stop {p : Char → Bool} {d : Char} (hd : p d = false) (cs ds : List Char) :
    (cs ++ d :: ds).takeWhile p = cs.takeWhile p ∧
      (cs ++ d :: ds).dropWhile p = cs.dropWhile p ++ d :: ds := by
  induction cs with
  | nil => simp [hd]
  | cons c rest ih =>
    obtain ⟨htake, hdrop⟩ := ih
    rw [List.cons_append]
    cases hc : p c with
    | true => simp [hc, htake, hdrop]
    | false => simp [hc]

/-- Up to the first slash stands the host. -/
theorem readHosted_eq_ok {scheme : String} (hweb : isWeb scheme = true) {cs : List Char}
    {base : Url} :
    readHosted scheme cs = .ok base ↔
      ∃ host port,
        readAuthority scheme (cs.takeWhile fun c => !endsAuthority true c) = .ok (host, port) ∧
          base = assemble scheme host port (readPath true)
            (cs.dropWhile fun c => !endsAuthority true c) := by
  unfold readHosted
  simp only [hweb]
  cases hread : readAuthority scheme (cs.takeWhile fun c => !endsAuthority true c) with
  | error fault =>
    simp only [reduceCtorEq, false_and, exists_false, iff_false]
    intro hok
    split at hok
    · exact nomatch hok
    · exact nomatch hok
  | ok found =>
    obtain ⟨host, port⟩ := found
    have huser := (readAuthority_host hweb hread).2.2
    rw [if_neg (by simp [huser])]
    constructor
    · intro hok
      exact ⟨host, port, rfl, (Except.ok.inj hok).symm⟩
    · rintro ⟨host', port', hsame, rfl⟩
      obtain ⟨rfl, rfl⟩ := Prod.mk.inj (Except.ok.inj hsame)
      rfl

section

variable {pieces : List (List Char)} (hpieces : pieces ≠ []) (h : ∀ piece ∈ pieces, PathPiece piece)
include hpieces h

theorem pathText_cons : ∃ ds, (pathText pieces).toList = '/' :: ds := by
  obtain ⟨piece, rest, rfl⟩ := List.exists_cons_of_ne_nil hpieces
  exact ⟨_, toList_pathText (piece :: rest)⟩

omit hpieces in
theorem pathText_plain : ∀ c ∈ (pathText pieces).toList, 0x20 < c.toNat ∧ c ≠ '?' ∧ c ≠ '#' := by
  intro c hc
  rw [toList_pathText] at hc
  obtain ⟨piece, hpiece, hmem⟩ := List.mem_flatMap.mp hc
  rcases List.mem_cons.mp hmem with rfl | hmem
  · exact ⟨by decide, by decide, by decide⟩
  · obtain ⟨hlow, -, hquery, hfragment⟩ := (h piece hpiece).plain c hmem
    exact ⟨hlow, hquery, hfragment⟩

/-- What follows the slashes before the host, with a path behind it. -/
theorem readHosted_append {scheme : String} (hweb : isWeb scheme = true) {cs : List Char}
    (hplain : ∀ c ∈ cs, c ≠ '?' ∧ c ≠ '#') {base : Url} (hbase : readHosted scheme cs = .ok base) :
    base.host.isSome = true ∧ base.query = none ∧
      ∃ front, (base.path = front ∨ base.path = front ++ "/") ∧
        readHosted scheme (cs ++ (pathText pieces).toList) =
          .ok { base with path := front ++ pathText pieces } := by
  obtain ⟨ds, hds⟩ := pathText_cons hpieces h
  obtain ⟨htake, hdrop⟩ :=
    takeWhile_append_stop (p := fun c => !endsAuthority true c) (d := '/') rfl cs ds
  obtain ⟨host, port, hread, rfl⟩ := (readHosted_eq_ok hweb).mp hbase
  have hrest : ∀ c ∈ cs.dropWhile fun c => !endsAuthority true c, c ≠ '?' ∧ c ≠ '#' :=
    fun c hc => hplain c ((List.dropWhile_suffix _).subset hc)
  have hslash : ∀ c, (cs.dropWhile fun c => !endsAuthority true c).head? = some c →
      isSlash true c = true := by
    intro c hc
    have hends := List.head?_dropWhile_not (fun c => !endsAuthority true c) cs
    rw [hc] at hends
    obtain ⟨hquery, hfragment⟩ := hrest c (List.mem_of_mem_head? hc)
    simpa [endsAuthority, hquery, hfragment] using hends
  obtain ⟨front, hfront, hpath⟩ := readPath_append hslash hpieces h
  have hbase : assemble scheme host port (readPath true)
      (cs.dropWhile fun c => !endsAuthority true c) =
        { scheme, host, port,
          path := readPath true (cs.dropWhile fun c => !endsAuthority true c) } :=
    assemble_of_plain _ _ _ _ (fun hc => (hrest _ hc).1 rfl) (fun hc => (hrest _ hc).2 rfl)
  refine ⟨?_, ?_, front, ?_, ?_⟩
  · rw [hbase]
    exact (readAuthority_host hweb hread).1
  · rw [hbase]
  · rw [hbase]
    exact hfront
  · rw [readHosted_eq_ok hweb, hds, htake, hdrop, ← hds]
    refine ⟨host, port, hread, ?_⟩
    have hall : ∀ c ∈ (cs.dropWhile fun c => !endsAuthority true c) ++ (pathText pieces).toList,
        c ≠ '?' ∧ c ≠ '#' := by
      intro c hc
      rcases List.mem_append.mp hc with hc | hc
      · exact hrest c hc
      · exact (pathText_plain h c hc).2
    rw [hbase, assemble_of_plain _ _ _ _ (fun hc => (hall _ hc).1 rfl)
      (fun hc => (hall _ hc).2 rfl), hpath]

end

/-- An address to which a path can be added: one of the web, without blanks, query and fragment. -/
structure IsBase (text : String) (base : Url) : Prop where
  address : parse text = .ok base
  scheme : base.scheme = "http" ∨ base.scheme = "https"
  plain : ∀ c ∈ text.toList, 0x20 < c.toNat ∧ c ≠ '?' ∧ c ≠ '#'

theorem isWeb_of_http {scheme : String} (h : scheme = "http" ∨ scheme = "https") :
    isWeb scheme = true := by
  rcases h with rfl | rfl
  · rfl
  · rfl

theorem scheme_of_readHosted {scheme : String} {cs : List Char} {base : Url}
    (h : readHosted scheme cs = .ok base) : base.scheme = scheme := by
  unfold readHosted at h
  simp only at h
  split at h
  · exact nomatch h
  · obtain ⟨⟨host, port⟩, -, hok⟩ := bind_eq_ok.mp h
    obtain rfl := Except.ok.inj hok
    rfl

theorem scheme_of_readFile {cs : List Char} {base : Url} (h : readFile cs = .ok base) :
    base.scheme = "file" := by
  unfold readFile at h
  split at h
  · simp only at h
    split at h
    · obtain rfl := Except.ok.inj h
      rfl
    · obtain ⟨host, -, hok⟩ := bind_eq_ok.mp h
      obtain rfl := Except.ok.inj hok
      rfl
  · obtain rfl := Except.ok.inj h
    rfl

/-- An address of the web is read from its scheme on, past any slashes. -/
theorem parse_web {s : String} {base : Url} (h : parse s = .ok base)
    (hscheme : base.scheme = "http" ∨ base.scheme = "https") :
    ∃ rest, readScheme? (clean s.toList) = some (base.scheme, rest) ∧
      readHosted base.scheme (rest.dropWhile (isSlash true)) = .ok base := by
  have hweb := isWeb_of_http hscheme
  unfold parse at h
  split at h
  · contradiction
  · rename_i scheme rest hread
    split at h
    · obtain rfl := scheme_of_readHosted h
      exact ⟨rest, hread, h⟩
    · rename_i hother
      exfalso
      split at h
      · rw [scheme_of_readFile h] at hweb
        exact absurd hweb (by decide)
      · split at h
        · exact hother (scheme_of_readHosted h ▸ hweb)
        · obtain rfl := Except.ok.inj h
          exact hother hweb
        · obtain rfl := Except.ok.inj h
          exact hother hweb

/-- A path behind a base goes on where the path of the base ends, and is kept as it is. -/
theorem parse_append {text : String} {base : Url} (hbase : IsBase text base)
    {pieces : List (List Char)} (hpieces : pieces ≠ []) (h : ∀ piece ∈ pieces, PathPiece piece) :
    base.host.isSome = true ∧ base.query = none ∧
      ∃ front, (base.path = front ∨ base.path = front ++ "/") ∧
        parse (text ++ pathText pieces) = .ok { base with path := front ++ pathText pieces } := by
  have hweb := isWeb_of_http hbase.scheme
  obtain ⟨rest, hread, hhosted⟩ := parse_web hbase.address hbase.scheme
  rw [clean_of_plain fun c hc => (hbase.plain c hc).1] at hread
  have hsub : ∀ c ∈ rest.dropWhile (isSlash true), c ≠ '?' ∧ c ≠ '#' := by
    intro c hc
    have hsuffix := (List.dropWhile_suffix (isSlash true)).trans (readScheme?_suffix hread)
    exact (hbase.plain c (hsuffix.subset hc)).2
  obtain ⟨hhost, hquery, front, hfront, hwhole⟩ := readHosted_append hpieces h hweb hsub hhosted
  refine ⟨hhost, hquery, front, hfront, ?_⟩
  have hplain : ∀ c ∈ (text ++ pathText pieces).toList, 0x20 < c.toNat := by
    intro c hc
    rw [String.toList_append] at hc
    rcases List.mem_append.mp hc with hc | hc
    · exact (hbase.plain c hc).1
    · exact (pathText_plain h c hc).1
  have hdrop : (rest ++ (pathText pieces).toList).dropWhile (isSlash true) =
      rest.dropWhile (isSlash true) ++ (pathText pieces).toList := by
    have hsome : (rest.dropWhile (isSlash true)).isEmpty = false := by
      rw [← Bool.not_eq_true, List.isEmpty_iff]
      intro hempty
      rw [hempty] at hhosted
      obtain ⟨host, port, hauthority, -⟩ := (readHosted_eq_ok hweb).mp hhosted
      exact (readAuthority_host hweb hauthority).2.1 rfl
    rw [List.dropWhile_append, hsome]
    rfl
  unfold parse
  rw [clean_of_plain hplain, String.toList_append, readScheme?_append hread]
  simp only [hweb, ↓reduceIte, hdrop]
  exact hwhole

end CloudGate.Net.Url
