import NetAudio.Proofs.Url.Below
import Mathlib.Data.List.DropRight

/-!
# URLs that are extended

A text that goes on behind a slash is a URL or not whatever follows: nothing but slashes, or a path below
`api`.  One slash more spoils a URL only where it ends in a character that does not count there, or in a
user without a host.
-/

set_option autoImplicit false

namespace NetAudio

def withSlashes (text : String) (count : Nat) : String :=
  text ++ String.ofList (List.replicate count '/')

namespace Url

/-! ## What follows the slash -/

/-- What a base is extended with, behind a slash. -/
inductive Extension : List Char → Prop where
  | slashes (count : Nat) : Extension (List.replicate count '/')
  | below (path : List Char) (plain : Plain path) : Extension ('a' :: 'p' :: 'i' :: '/' :: path)

theorem Extension.plain {back : List Char} (extension : Extension back) : Plain back := by
  cases extension with
  | slashes count =>
      intro c member
      rw [List.eq_of_mem_replicate member]
      rfl
  | below path plain => exact Plain.append (by decide : Plain ['a', 'p', 'i', '/']) plain

/-- The hosts that an extension may be read as. -/
def isOwnHost (host : List Char) : Prop := host = [] ∨ host = ['a', 'p', 'i']

theorem Extension.host {back : List Char} (extension : Extension back) (kind : Kind) :
    isOwnHost (back.takeWhile (!kind.ends ·)) := by
  cases extension with
  | slashes count =>
      left
      cases count with
      | zero => rfl
      | succ count => simp [List.replicate_succ, ends_slash]
  | below path plain =>
      right
      cases kind <;> rfl

/-- Behind another slash an extension is an extension again. -/
theorem Extension.tail {c : Char} {back : List Char} (extension : Extension (c :: back))
    (slash : isSlash c = true) : Extension back := by
  generalize whole : c :: back = chars at extension
  cases extension with
  | slashes count =>
      cases count with
      | zero => cases whole
      | succ count =>
          cases whole
          exact .slashes count
  | below path plain =>
      cases whole
      cases slash

/-! ## Reading on behind a slash -/

/-- Nothing but its host makes a file URL valid. -/
theorem isValid_ofFileHost (chars : List Char) :
    (ofFileHost chars).isValid =
      (isDriveLetter (chars.takeWhile (!Kind.ends .file ·)) ||
        ((chars.takeWhile (!Kind.ends .file ·)).isEmpty ||
          isHost (chars.takeWhile (!Kind.ends .file ·)))) := by
  unfold ofFileHost
  cases drive : isDriveLetter (chars.takeWhile (!Kind.ends .file ·)) with
  | true =>
      simp only [drive, if_true]
      rfl
  | false =>
      simp only [drive]
      rfl

theorem ofRest_file_eq (a b : Char) (rest : List Char) :
    ofRest .file (a :: b :: rest) =
      if isSlash a && isSlash b then ofFileHost rest else ⟨.file, none, a :: b :: rest⟩ := rfl

theorem ofRest_other_eq {chars : List Char} (alone : ∀ rest, chars ≠ '/' :: '/' :: rest) :
    ofRest .other chars = ⟨.other, none, chars⟩ := by
  simp only [ofRest]

namespace Extension
variable {back : List Char} (extension : Extension back)
include extension

theorem isValid_fileHost : (ofFileHost back).isValid = true := by
  rw [isValid_ofFileHost]
  rcases extension.host .file with empty | own
  · rw [empty]
    rfl
  · rw [own]
    decide +kernel

theorem isValid_authority : (ofAuthority .other back).isValid = true := by
  unfold ofAuthority
  generalize back.dropWhile (!Kind.ends .other ·) = rest
  rcases extension.host .other with empty | own
  · rw [empty]
    rfl
  · rw [own]
    rfl

/-- Behind at most one character of a file URL, the slash begins a path, or a host that the extension
may be. -/
theorem isValid_file {front : List Char} (short : front.length ≤ 1) :
    (ofRest .file (front ++ '/' :: back)).isValid = true := by
  have read (a b : Char) {rest : List Char} (later : isSlash b = true → Extension rest) :
      (ofRest .file (a :: b :: rest)).isValid = true := by
    rw [ofRest_file_eq]
    split
    · next slashes => exact (later (Bool.and_eq_true_iff.mp slashes).2).isValid_fileHost
    · rfl
  rcases front with _ | ⟨a, _ | ⟨b, front⟩⟩
  · cases back with
    | nil => rfl
    | cons c back => exact read '/' c extension.tail
  · exact read a '/' fun _ => extension
  · simp at short

/-- Where no authority has begun, the slash begins a path or the authority that the extension may be. -/
theorem isValid_other {front : List Char} (alone : ∀ rest, front ≠ '/' :: '/' :: rest) :
    (ofRest .other (front ++ '/' :: back)).isValid = true := by
  have read (a b : Char) {rest : List Char} (later : a = '/' → b = '/' → Extension rest) :
      (ofRest .other (a :: b :: rest)).isValid = true := by
    by_cases slashes : a = '/' ∧ b = '/'
    · obtain ⟨rfl, rfl⟩ := slashes
      exact (later rfl rfl).isValid_authority
    · rw [ofRest_other_eq]
      · rfl
      · intro rest same
        cases same
        exact slashes ⟨rfl, rfl⟩
  rcases front with _ | ⟨a, _ | ⟨b, front⟩⟩
  · cases back with
    | nil => rfl
    | cons c back =>
        apply read '/' c
        rintro - rfl
        exact extension.tail rfl
  · exact read a '/' fun _ _ => extension
  · apply read a b
    rintro rfl rfl
    exact absurd rfl (alone front)

end Extension

/-- Behind two characters a file host that has begun ends at the slash. -/
theorem isValid_file_append (a b : Char) (front back : List Char) :
    (ofRest .file (a :: b :: front ++ '/' :: back)).isValid =
      (ofRest .file (a :: b :: front)).isValid := by
  simp only [List.cons_append, ofRest_file_eq]
  split
  · rw [isValid_ofFileHost, isValid_ofFileHost, takeWhile_append_cons (ends_slash .file)]
  · rfl

def Begun (kind : Kind) (front : List Char) : Prop :=
  kind = .network → front.dropWhile isSlash ≠ []

/-- Of what follows an authority it only counts whether there is anything. -/
theorem Authority.isValid_of_ne_nil (authority : Authority) (kind : Kind) {rest other : List Char}
    (first : rest ≠ []) (second : other ≠ []) :
    authority.isValid kind rest = authority.isValid kind other := by
  unfold Authority.isValid
  rw [List.isEmpty_eq_false_iff.mpr first, List.isEmpty_eq_false_iff.mpr second]

/-- A slash goes on the same whatever extension is behind it: an authority that has begun ends there,
and none of the others is wrong. -/
theorem isValid_append {kind : Kind} {front back : List Char} (begun : Begun kind front)
    (extension : Extension back) :
    (ofRest kind (front ++ '/' :: back)).isValid = (ofRest kind (front ++ ['/'])).isValid := by
  have nothing : Extension [] := .slashes 0
  cases kind with
  | network =>
      have host := begun rfl
      rw [ofRest_network host, ofRest_network host, ofAuthority_append, ofAuthority_append]
      rfl
  | file =>
      by_cases short : front.length ≤ 1
      · rw [extension.isValid_file short, nothing.isValid_file short]
      · rcases front with _ | ⟨a, _ | ⟨b, front⟩⟩
        · simp at short
        · simp at short
        · rw [isValid_file_append, isValid_file_append]
  | other =>
      by_cases addressed : ∃ rest, front = '/' :: '/' :: rest
      · obtain ⟨rest, rfl⟩ := addressed
        have read (back : List Char) : ofRest .other ('/' :: '/' :: rest ++ '/' :: back) =
            ofAuthority .other (rest ++ '/' :: back) := rfl
        rw [read, read, ofAuthority_append, ofAuthority_append]
        exact Authority.isValid_of_ne_nil _ .other (by simp) (by simp)
      · have alone := not_exists.mp addressed
        rw [extension.isValid_other alone, nothing.isValid_other alone]

/-! ## One slash more -/

/-- An empty user without a host.  It may stand alone only. -/
def loneUser : Authority := ⟨some [], [], none⟩

theorem Authority.isValid_other_iff {authority : Authority} {rest other : List Char}
    (valid : authority.isValid .other rest = true) (more : other ≠ []) :
    authority.isValid .other other = true ↔ authority ≠ loneUser := by
  have filled : other.isEmpty = false := List.isEmpty_eq_false_iff.mpr more
  obtain ⟨user, host, port⟩ := authority
  cases host with
  | cons c host =>
      have sound : (Authority.mk user (c :: host) port).isValid .other other = true := valid
      exact iff_of_true sound nofun
  | nil =>
      cases port with
      | some port => simp [Authority.isValid] at valid
      | none =>
          rcases user with _ | _ | ⟨c, user⟩
          · exact iff_of_true rfl nofun
          · have unsound : loneUser.isValid .other other = false := by
              unfold Authority.isValid
              rw [filled]
              rfl
            exact iff_of_false (by rw [← loneUser, unsound]; nofun) fun different => different rfl
          · have sound : (Authority.mk (some (c :: user)) [] none).isValid .other other = true := valid
            exact iff_of_true sound nofun

/-- A file host has no user. -/
theorem authority_file_ne (chars : List Char) : (ofRest .file chars).authority ≠ some loneUser := by
  rcases chars with _ | ⟨a, _ | ⟨b, rest⟩⟩
  · nofun
  · nofun
  · rw [ofRest_file_eq]
    split
    · unfold ofFileHost
      simp only
      split
      · nofun
      · nofun
    · nofun

theorem isValid_slash {kind : Kind} {chars : List Char} (valid : (ofRest kind chars).isValid = true) :
    (ofRest kind (chars ++ ['/'])).isValid = true ↔
      (ofRest kind chars).authority ≠ some loneUser := by
  have nothing : Extension [] := .slashes 0
  cases kind with
  | network =>
      by_cases slashes : chars.dropWhile isSlash = []
      · rw [ofRest, slashes] at valid
        cases valid
      · rw [ofRest_network slashes, ofAuthority_append]
        refine iff_of_true valid ?_
        intro alone
        rw [isValid, alone] at valid
        cases valid
  | file =>
      refine iff_of_true ?_ (authority_file_ne chars)
      by_cases short : chars.length ≤ 1
      · exact nothing.isValid_file short
      · rcases chars with _ | ⟨a, _ | ⟨b, rest⟩⟩
        · simp at short
        · simp at short
        · rw [isValid_file_append]
          exact valid
  | other =>
      by_cases addressed : ∃ rest, chars = '/' :: '/' :: rest
      · obtain ⟨rest, rfl⟩ := addressed
        have read (more : List Char) : ofRest .other ('/' :: '/' :: more) = ofAuthority .other more := rfl
        rw [List.cons_append, List.cons_append, read, ofAuthority_append, read]
        rw [read] at valid
        have exact := Authority.isValid_other_iff valid
          (by simp : rest.dropWhile (!Kind.ends .other ·) ++ ['/'] ≠ [])
        exact exact.trans (not_congr (Option.some.injEq _ _).to_iff.symm)
      · have alone := not_exists.mp addressed
        rw [ofRest_other_eq alone]
        exact iff_of_true (nothing.isValid_other alone) (Option.some_ne_none loneUser).symm

/-! ## Whole texts -/

theorem isAbsolute_iff (text : String) :
    isAbsolute text = true ↔ ∃ scheme rest,
      Text.cutFirst? ':' (significant text.toList) = some (scheme, rest) ∧
        isScheme scheme = true ∧ (ofRest (.ofScheme scheme) rest).isValid = true := by
  unfold isAbsolute ofText?
  cases cut : Text.cutFirst? ':' (significant text.toList) with
  | none => simp
  | some parts =>
      obtain ⟨scheme, rest⟩ := parts
      simp

/-- The slash stands behind the first colon, so the scheme is that of the text before it. -/
theorem isAbsolute_below_iff (front : String) {back : String} (plain : Plain back.toList) :
    isAbsolute (front ++ "/" ++ back) = true ↔ ∃ scheme rest,
      Text.cutFirst? ':' (counted front.toList) = some (scheme, rest) ∧
        isScheme scheme = true ∧
        (ofRest (.ofScheme scheme) (rest ++ '/' :: back.toList)).isValid = true := by
  have unmarked : ':' ∉ '/' :: back.toList := by
    rw [List.mem_cons, not_or]
    exact ⟨by decide, plain.not_mem (by decide)⟩
  rw [isAbsolute_iff, significant_below front plain, Text.cutFirst?_append_of_not_mem unmarked]
  constructor
  · rintro ⟨scheme, rest, cut, named, valid⟩
    obtain ⟨⟨before, after⟩, found, same⟩ := Option.map_eq_some_iff.mp cut
    obtain ⟨rfl, rfl⟩ := Prod.mk.inj same
    exact ⟨before, after, found, named, valid⟩
  · rintro ⟨scheme, rest, cut, named, valid⟩
    exact ⟨scheme, rest ++ '/' :: back.toList, by rw [cut]; rfl, named, valid⟩

def HasBegun (front : String) : Prop :=
  ∀ scheme rest, Text.cutFirst? ':' (counted front.toList) = some (scheme, rest) →
    Begun (.ofScheme scheme) rest

/-- Behind a text and a slash, all extensions are equally good. -/
theorem isAbsolute_extend {front : String} (begun : HasBegun front) {back : String}
    (extension : Extension back.toList) :
    isAbsolute (front ++ "/" ++ back) = true ↔ isAbsolute (front ++ "/") = true := by
  have bare := isAbsolute_below_iff front (by decide : Plain "".toList)
  rw [String.append_empty] at bare
  rw [isAbsolute_below_iff front extension.plain, bare]
  constructor
  · rintro ⟨scheme, rest, cut, named, valid⟩
    rw [isValid_append (begun scheme rest cut) extension] at valid
    exact ⟨scheme, rest, cut, named, valid⟩
  · rintro ⟨scheme, rest, cut, named, valid⟩
    refine ⟨scheme, rest, cut, named, ?_⟩
    rw [isValid_append (begun scheme rest cut) extension]
    exact valid

theorem significant_prefix (text : List Char) : significant text <+: counted text :=
  (List.rdropWhile_prefix isSurrounding _).filter _

theorem counted_slashes (front : List Char) (count : Nat) :
    counted (front ++ List.replicate count '/') = counted front ++ List.replicate count '/' := by
  cases count with
  | zero => simp
  | succ count =>
      have slash : isSurrounding '/' = false := by decide
      have kept : (List.replicate (count + 1) '/').filter (!isBreak ·) =
          List.replicate (count + 1) '/' := by
        rw [List.filter_eq_self]
        intro c member
        rw [List.eq_of_mem_replicate member]
        rfl
      rw [counted, List.replicate_succ, dropWhile_append_cons slash, List.filter_append,
        ← List.replicate_succ, kept, counted]

/-- In front of the slashes at the end of a URL, the host has begun. -/
theorem hasBegun_of_isAbsolute {front : String} {count : Nat}
    (accepted : isAbsolute (withSlashes front count) = true) : HasBegun front := by
  intro scheme rest cut network slashes
  obtain ⟨word, after, read, -, valid⟩ := (isAbsolute_iff _).mp accepted
  obtain ⟨tail, whole⟩ := significant_prefix (withSlashes front count).toList
  rw [withSlashes, String.toList_append, String.toList_ofList] at whole read
  rw [counted_slashes] at whole
  -- The URL begins like the text, so they have one scheme, and the slashes are all that is left.
  have first := Text.cutFirst?_append read tail
  rw [whole, Text.cutFirst?_append cut] at first
  obtain ⟨rfl, same⟩ := Prod.mk.inj (Option.some.inj first)
  have only : ∀ c ∈ after, isSlash c = true := by
    intro c member
    have among : c ∈ rest ++ List.replicate count '/' := by
      rw [same]
      exact List.mem_append_left tail member
    rcases List.mem_append.mp among with early | late
    · exact List.dropWhile_eq_nil_iff.mp slashes c early
    · rw [List.eq_of_mem_replicate late]
      rfl
  rw [network, ofRest, List.dropWhile_eq_nil_iff.mpr only] at valid
  cases valid

/-- So one slash more behind those at the end of a URL is as good as any extension in their place. -/
theorem isAbsolute_withSlashes_iff {front : String} {count : Nat}
    (accepted : isAbsolute (withSlashes front count) = true) {back : String}
    (extension : Extension back.toList) :
    isAbsolute (front ++ "/" ++ back) = true ↔ isAbsolute (withSlashes front count ++ "/") = true := by
  have begun := hasBegun_of_isAbsolute accepted
  have slashes : Extension (String.ofList (List.replicate count '/')).toList := by
    rw [String.toList_ofList]
    exact .slashes count
  have moved : withSlashes front count ++ "/" =
      front ++ "/" ++ String.ofList (List.replicate count '/') := by
    rw [← String.toList_inj]
    simp only [withSlashes, String.toList_append, String.toList_ofList, List.append_assoc]
    exact congrArg (front.toList ++ ·) (List.replicate_succ'.symm.trans List.replicate_succ)
  rw [moved, isAbsolute_extend begun extension, isAbsolute_extend begun slashes]

/-- A text whose last character counts is read to its end. -/
theorem significant_eq_counted {text : List Char}
    (ended : ∀ c, text.getLast? = some c → isSurrounding c = false) :
    significant text = counted text := by
  have kept : (text.dropWhile isSurrounding).rdropWhile isSurrounding =
      text.dropWhile isSurrounding := by
    rw [List.rdropWhile_eq_self_iff]
    intro filled
    have suffix := List.dropWhile_suffix (l := text) isSurrounding
    have last : text.getLast? = some ((text.dropWhile isSurrounding).getLast filled) := by
      rw [suffix.getLast filled]
      exact List.getLast?_eq_some_getLast _
    rw [ended _ last]
    exact Bool.false_ne_true
  exact congrArg (List.filter (!isBreak ·)) kept

/-- One slash more spoils a URL only behind a user without a host. -/
theorem isAbsolute_slash_iff {base : String} {url : Url} (read : ofText? base = some url)
    (ended : ∀ c, base.toList.getLast? = some c → isSurrounding c = false) :
    isAbsolute (base ++ "/") = true ↔ url.authority ≠ some loneUser := by
  have bare := isAbsolute_below_iff base (by decide : Plain "".toList)
  rw [String.append_empty, ← significant_eq_counted ended] at bare
  rw [bare]
  unfold ofText? at read
  cases cut : Text.cutFirst? ':' (significant base.toList) with
  | none =>
      rw [cut] at read
      cases read
  | some parts =>
      obtain ⟨scheme, rest⟩ := parts
      simp only [cut] at read
      split at read
      · next valid =>
          cases read
          obtain ⟨named, valid⟩ := Bool.and_eq_true_iff.mp valid
          rw [← isValid_slash valid]
          constructor
          · rintro ⟨word, after, same, -, more⟩
            cases same
            exact more
          · intro more
            exact ⟨scheme, rest, rfl, named, more⟩
      · cases read

end Url

end NetAudio
