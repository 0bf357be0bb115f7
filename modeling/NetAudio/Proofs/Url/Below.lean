import NetAudio.Proofs.Text.Parts
import NetAudio.Url.Target
import Mathlib.Data.List.TakeWhile

/-!
# URLs below a URL

A path of letters, digits and slashes that is put behind a network URL ends up behind the path of that
URL as it stands, and the authority stays.
-/

set_option autoImplicit false

namespace NetAudio

namespace Url

/-! ## Plain texts -/

/-- The characters that stand for themselves in every path. -/
def isPlain (c : Char) : Bool := c.isAlphanum || c = '/'

def Plain (chars : List Char) : Prop := ∀ c ∈ chars, isPlain c = true

instance (chars : List Char) : Decidable (Plain chars) :=
  decidable_of_iff (chars.all isPlain = true) List.all_eq_true

theorem Plain.not_mem {chars : List Char} (plain : Plain chars) {c : Char}
    (other : isPlain c = false) : c ∉ chars := by
  intro member
  rw [plain c member] at other
  cases other

theorem toNat_of_isPlain {c : Char} (plain : isPlain c = true) : 0x20 < c.toNat ∧ c.toNat < 0x7F := by
  have ranges : ((decide (65 ≤ c.val ∧ c.val ≤ 90) || (97 ≤ c.val && c.val ≤ 122)) ||
      (48 ≤ c.val && c.val ≤ 57) || c = '/') = true := plain
  simp only [Bool.or_eq_true, Bool.and_eq_true, decide_eq_true_eq, UInt32.le_iff_toNat_le] at ranges
  rcases ranges with ((⟨low, high⟩ | ⟨low, high⟩) | ⟨low, high⟩) | rfl
  · have bounds : 65 ≤ c.toNat ∧ c.toNat ≤ 90 := ⟨low, high⟩
    omega
  · have bounds : 97 ≤ c.toNat ∧ c.toNat ≤ 122 := ⟨low, high⟩
    omega
  · have bounds : 48 ≤ c.toNat ∧ c.toNat ≤ 57 := ⟨low, high⟩
    omega
  · decide

theorem Plain.append {front back : List Char} (first : Plain front) (second : Plain back) :
    Plain (front ++ back) := by
  intro c member
  exact (List.mem_append.mp member).elim (first c) (second c)

/-! ## The characters that count -/

section Stops
variable {keeps : Char → Bool} {mark : Char} (stops : keeps mark = false)
include stops

theorem takeWhile_append_cons (front back : List Char) :
    (front ++ mark :: back).takeWhile keeps = front.takeWhile keeps := by
  induction front with
  | nil => simp [stops]
  | cons c front ih => simp only [List.cons_append, List.takeWhile_cons, ih]

theorem dropWhile_append_cons (front back : List Char) :
    (front ++ mark :: back).dropWhile keeps = front.dropWhile keeps ++ mark :: back := by
  induction front with
  | nil => simp [stops]
  | cons c front ih =>
      simp only [List.cons_append, List.dropWhile_cons, ih]
      split <;> rfl

end Stops

theorem not_isSurrounding_of_isPlain {c : Char} (plain : isPlain c = true) :
    isSurrounding c = false := by
  have bound := toNat_of_isPlain plain
  simp only [isSurrounding, decide_eq_false_iff_not]
  omega

theorem not_isBreak_of_isPlain {c : Char} (plain : isPlain c = true) : isBreak c = false := by
  simp only [isBreak, Bool.or_eq_false_iff, decide_eq_false_iff_not]
  refine ⟨⟨?_, ?_⟩, ?_⟩ <;> rintro rfl <;> exact absurd plain (by decide)

/-- The characters of a text that count where it goes on. -/
def counted (front : List Char) : List Char := (front.dropWhile isSurrounding).filter (!isBreak ·)

theorem significant_append (front : List Char) {back : List Char} (plain : Plain back) :
    significant (front ++ '/' :: back) = counted front ++ '/' :: back := by
  have slash : isSurrounding '/' = false := by decide
  have started : (front ++ '/' :: back).dropWhile isSurrounding =
      front.dropWhile isSurrounding ++ '/' :: back := dropWhile_append_cons slash front back
  have ended : (front.dropWhile isSurrounding ++ '/' :: back).reverse.dropWhile isSurrounding =
      (front.dropWhile isSurrounding ++ '/' :: back).reverse := by
    rw [List.reverse_append, List.reverse_cons]
    cases listed : back.reverse with
    | nil => simp [slash]
    | cons c later =>
        have member : c ∈ back := by
          rw [← List.mem_reverse, listed]
          exact List.mem_cons_self
        simp [not_isSurrounding_of_isPlain (plain c member)]
  have kept : ('/' :: back).filter (!isBreak ·) = '/' :: back := by
    rw [List.filter_eq_self]
    intro c member
    rcases List.mem_cons.mp member with rfl | later
    · rfl
    · simp [not_isBreak_of_isPlain (plain c later)]
  rw [significant, started, ended, List.reverse_reverse, List.filter_append, kept, counted]

theorem significant_below (base : String) {back : String} (plain : Plain back.toList) :
    significant (base ++ "/" ++ back).toList = counted base.toList ++ '/' :: back.toList := by
  rw [← significant_append base.toList plain]
  simp [String.toList_append]

theorem significant_slash (base : String) :
    significant (base ++ "/").toList = counted base.toList ++ ['/'] := by
  simpa using significant_below base (by decide : Plain "".toList)

/-! ## Reading a text that goes on -/

theorem ends_slash (kind : Kind) : (!kind.ends '/') = false := by
  cases kind <;> rfl

/-- A slash ends the authority that stands before it, whatever follows. -/
theorem ofAuthority_append (kind : Kind) (front back : List Char) :
    ofAuthority kind (front ++ '/' :: back) =
      ⟨kind, some (.ofChars (front.takeWhile (!kind.ends ·))),
        front.dropWhile (!kind.ends ·) ++ '/' :: back⟩ := by
  have stops := ends_slash kind
  rw [ofAuthority, takeWhile_append_cons stops, dropWhile_append_cons stops]

theorem ofRest_network {front : List Char} (host : front.dropWhile isSlash ≠ []) (back : List Char) :
    ofRest .network (front ++ back) = ofAuthority .network (front.dropWhile isSlash ++ back) := by
  rw [ofRest, List.dropWhile_append, if_neg (by simpa using host)]

theorem ofRest_append {front : List Char} (valid : (ofRest .network (front ++ ['/'])).isValid = true) :
    ∃ authority rest, ∀ back : List Char,
      ofRest .network (front ++ '/' :: back) = ⟨.network, some authority, rest ++ '/' :: back⟩ := by
  by_cases slashes : front.dropWhile isSlash = []
  · -- Nothing is left for a host.
    have blank : (front ++ ['/']).dropWhile isSlash = [] := by
      rw [List.dropWhile_append, slashes]
      rfl
    rw [ofRest, blank] at valid
    cases valid
  · exact ⟨_, _, fun back =>
      (ofRest_network slashes _).trans (ofAuthority_append .network _ back)⟩

theorem kind_ofRest (kind : Kind) (chars : List Char) : (ofRest kind chars).kind = kind := by
  cases kind with
  | network => rfl
  | file =>
      simp only [ofRest]
      split
      · split
        · rw [ofFileHost]
          split <;> rfl
        · rfl
      · rfl
  | other =>
      simp only [ofRest]
      split <;> rfl

/-- What follows the slash behind a network URL is kept as the end of its rest. -/
theorem ofText?_append {base : String} {url : Url} (read : ofText? (base ++ "/") = some url)
    (network : url.kind = .network) : ∃ rest, url.rest = rest ++ ['/'] ∧
      ∀ back : String, Plain back.toList →
        ofText? (base ++ "/" ++ back) = some { url with rest := rest ++ '/' :: back.toList } := by
  -- The slash stands behind the first colon.
  rw [ofText?, significant_slash, Text.cutFirst?_append_of_not_mem (by decide)] at read
  cases cut : Text.cutFirst? ':' (counted base.toList) with
  | none => simp [cut] at read
  | some parts =>
      obtain ⟨scheme, front⟩ := parts
      simp only [cut, Option.map_some] at read
      split at read
      · next valid =>
          cases read
          rw [kind_ofRest] at network
          rw [network, Bool.and_eq_true] at valid
          obtain ⟨authority, rest, append⟩ := ofRest_append valid.2
          rw [network, append]
          refine ⟨rest, rfl, fun back plain => ?_⟩
          rw [ofText?, significant_below base plain, Text.cutFirst?_append cut]
          simp only [network, append, valid.1]
          rw [append] at valid
          exact if_pos valid.2
      · cases read

/-! ## The target -/

theorem plainDots_of_plain {part : List Char} (plain : Plain part) : plainDots part = part := by
  induction part with
  | nil => rfl
  | cons c rest ih =>
      have later := ih fun d member => plain d (List.mem_cons_of_mem c member)
      have other : c ≠ '%' := by
        rintro rfl
        exact absurd (plain '%' List.mem_cons_self) (by decide)
      unfold plainDots
      split
      · next first => exact absurd (List.cons.inj first).1 other
      · next first => exact absurd (List.cons.inj first).1 other
      · next d more _ _ same =>
          cases same
          rw [later]
      · next empty => cases empty

theorem not_dots_of_plain {part : List Char} (plain : Plain part) :
    plainDots part ≠ ['.', '.'] ∧ plainDots part ≠ ['.'] := by
  rw [plainDots_of_plain plain]
  constructor <;> rintro rfl <;> exact absurd (plain '.' List.mem_cons_self) (by decide)

theorem resolveDots_of_plain (tail : List (List Char)) (plain : ∀ part ∈ tail, Plain part) :
    ∀ before, resolveDots before tail = before.reverse ++ tail := by
  induction tail with
  | nil => simp [resolveDots]
  | cons part rest ih =>
      intro before
      obtain ⟨pair, single⟩ := not_dots_of_plain (plain part List.mem_cons_self)
      have later := ih fun other member => plain other (List.mem_cons_of_mem part member)
      simp only [resolveDots, pair, single, if_false, later]
      simp

/-- Parts without dots are kept behind what the parts before them come to. -/
theorem resolveDots_append (parts : List (List Char)) : ∀ before, ∃ settled, ∀ tail,
    tail ≠ [] → (∀ part ∈ tail, Plain part) →
      resolveDots before (parts ++ tail) = settled ++ tail := by
  induction parts with
  | nil =>
      intro before
      exact ⟨before.reverse, fun tail _ plain => resolveDots_of_plain tail plain before⟩
  | cons part parts ih =>
      intro before
      by_cases pair : plainDots part = ['.', '.']
      · obtain ⟨settled, same⟩ := ih (before.drop 1)
        refine ⟨settled, fun tail filled plain => ?_⟩
        rw [← same tail filled plain]
        simp [resolveDots, pair, filled]
      · by_cases single : plainDots part = ['.']
        · obtain ⟨settled, same⟩ := ih before
          refine ⟨settled, fun tail filled plain => ?_⟩
          rw [← same tail filled plain]
          simp [resolveDots, single, filled]
        · obtain ⟨settled, same⟩ := ih (part :: before)
          refine ⟨settled, fun tail filled plain => ?_⟩
          rw [← same tail filled plain]
          simp [resolveDots, pair, single]

theorem encode_of_plain {part : List Char} (plain : Plain part) :
    Percent.encode isEscapedInPath part = part := by
  have escapes : " \"#<>?`\x7b\x7d^".toList.all (!isPlain ·) = true := by decide
  induction part with
  | nil => rfl
  | cons c rest ih =>
      have own := plain c List.mem_cons_self
      have bound := toNat_of_isPlain own
      have unescaped : isEscapedInPath c = false := by
        rw [isEscapedInPath, ← Bool.not_eq_true, List.contains_iff_mem]
        intro member
        have other := List.all_eq_true.mp escapes c member
        simp [own] at other
      have later := ih fun d member => plain d (List.mem_cons_of_mem c member)
      rw [Percent.encode] at later ⊢
      rw [List.flatMap_cons, later, unescaped, if_neg (by simp; omega)]
      rfl

theorem plain_of_mem_split {chars : List Char} (plain : Plain chars) :
    ∀ part ∈ Text.split '/' chars, Plain part :=
  fun _ member c within => plain c (Text.mem_of_mem_split member within)

/-- Where a URL has neither query nor fragment, its target is what its rest comes to as a path. -/
theorem target_of_path {url : Url} (noQuery : '?' ∉ url.rest) (noFragment : '#' ∉ url.rest) :
    url.target.toList = '/' :: List.intercalate ['/']
      ((resolveDots [] (Text.split '/' ((url.rest.map fun c => if c = '\\' then '/' else c).drop 1))).map
        (Percent.encode isEscapedInPath)) := by
  have path : url.rest.takeWhile (fun c => decide (c ≠ '?' ∧ c ≠ '#')) = url.rest := by
    rw [List.takeWhile_eq_self_iff]
    intro c member
    simp only [decide_eq_true_eq]
    exact ⟨fun same => noQuery (same ▸ member), fun same => noFragment (same ▸ member)⟩
  have query : (url.rest.takeWhile (· ≠ '#')).dropWhile (· ≠ '?') = [] := by
    rw [List.dropWhile_eq_nil_iff]
    intro c member
    simp only [ne_eq, decide_eq_true_eq]
    exact fun same => noQuery (same ▸ List.takeWhile_subset _ member)
  rw [target, Url.query, query, Url.path, path]
  simp

/-- The parts behind the slash are kept as they stand. -/
theorem split_rest_append (rest : List Char) : ∃ parts, ∀ back, Plain back →
    Text.split '/' (((rest ++ '/' :: back).map fun c => if c = '\\' then '/' else c).drop 1) =
      parts ++ Text.split '/' back := by
  have kept (back : List Char) (plain : Plain back) :
      (back.map fun c => if c = '\\' then '/' else c) = back := by
    have same : ∀ c ∈ back, (if c = '\\' then '/' else c) = id c := by
      intro c member
      rw [if_neg, id]
      rintro rfl
      exact absurd (plain _ member) (by decide)
    rw [List.map_congr_left same, List.map_id]
  -- The first character is the slash that begins the path, be it of `rest` or the one behind it.
  cases rest with
  | nil => exact ⟨[], fun back plain => by simp [kept back plain]⟩
  | cons c rest =>
      refine ⟨Text.split '/' (rest.map fun c => if c = '\\' then '/' else c), fun back plain => ?_⟩
      rw [← Text.split_append_cons]
      simp [kept back plain]

theorem target_append {url : Url} {rest : List Char} (ended : url.rest = rest ++ ['/'])
    (noQuery : '?' ∉ url.rest) (noFragment : '#' ∉ url.rest) {back : List Char}
    (plain : Plain back) :
    ({ url with rest := rest ++ '/' :: back } : Url).target.toList = url.target.toList ++ back := by
  obtain ⟨parts, divided⟩ := split_rest_append rest
  obtain ⟨settled, resolved⟩ := resolveDots_append parts []
  have comes (back : List Char) (plain : Plain back) :
      ({ url with rest := rest ++ '/' :: back } : Url).target.toList =
        '/' :: List.intercalate ['/'] (settled.map (Percent.encode isEscapedInPath) ++ [[]]) ++
          back := by
    have outside {c : Char} (absent : c ∉ url.rest) (other : isPlain c = false) :
        c ∉ rest ++ '/' :: back := by
      rw [ended] at absent
      simp only [List.mem_append, List.mem_cons, not_or] at absent ⊢
      exact ⟨absent.1, absent.2.1, plain.not_mem other⟩
    have parted : (Text.split '/' back).map (Percent.encode isEscapedInPath) = Text.split '/' back := by
      rw [List.map_congr_left fun part member => encode_of_plain (plain_of_mem_split plain part member)]
      exact List.map_id' _
    rw [target_of_path (outside noQuery rfl) (outside noFragment rfl), divided back plain,
      resolved _ (Text.split_ne_nil back) (plain_of_mem_split plain), List.map_append, parted,
      Text.intercalate_append _ (Text.split_ne_nil back), Text.intercalate_split, List.cons_append]
  -- The URL itself is the case where nothing is put behind it.
  have base := comes [] nofun
  rw [← ended] at base
  rw [comes back plain, base, List.append_nil]

end Url

end NetAudio
