import Mathlib.Data.List.TakeDrop
import Mathlib.Data.List.TakeWhile
import GrantKeeper.Url.Reader

/-! Which part of an address on the web names the server: what stands between the slashes after the scheme
and the next slash, question mark or number sign. -/
namespace GrantKeeper.Url

def IsWeb (scheme : String) : Prop := scheme = "http" ∨ scheme = "https"

variable {scheme : String}

theorem scheme?_web (web : IsWeb scheme) (rest : List Char) :
    scheme? (scheme.toList ++ ':' :: rest) = some (scheme, rest) := by
  rcases web with rfl | rfl <;> rfl

theorem cut_fst (c : Char) (text : List Char) : (cut c text).1 = text.takeWhile (· != c) := by
  rw [cut, List.span_eq_takeWhile_dropWhile]
  cases text.dropWhile (· != c) <;> rfl

/-- A backslash is a slash in the addresses of servers, and tabs and line ends mean nothing. -/
def slashed (text : List Char) : List Char :=
  dropBreaks (text.map fun c => if c = '\\' then '/' else c)

def isInBody (c : Char) : Bool := c != '?' && c != '#'

/-- What names the server, of what follows the scheme. -/
def serverText (rest : List Char) : List Char :=
  ((slashed (rest.takeWhile isInBody)).dropWhile (· == '/')).takeWhile (· != '/')

theorem readAuthority_more (web : IsWeb scheme) (more : Bool) (text : List Char) :
    readAuthority scheme more text = readAuthority scheme true text := by
  have server : (defaultPort? scheme).isSome := by
    rcases web with rfl | rfl <;> decide
  rw [readAuthority, readAuthority]
  rcases splitUser text with ⟨userText, serverText⟩
  by_cases bare : userText = some [] ∧ serverText = []
  · obtain ⟨rfl, rfl⟩ := bare
    cases more
    · simp [server, splitPort]
      rfl
    · rfl
  · have bare_ (more : Bool) : (userText == some [] && serverText.isEmpty && more) = false := by
      simp only [Bool.and_eq_false_iff, beq_eq_false_iff_ne, List.isEmpty_eq_false_iff]
      exact .inl (Decidable.not_and_iff_not_or_not.mp bare)
    simp only [bare_]

theorem readBody_web (web : IsWeb scheme) (more : Bool) (body : List Char) :
    (readBody scheme more body).map (·.1) =
      (readAuthority scheme true
        (((slashed body).dropWhile (· == '/')).takeWhile (· != '/'))).map (some ·.1) := by
  have special : isSpecial scheme := by rcases web with rfl | rfl <;> decide
  have server : (scheme == "file") = false := by rcases web with rfl | rfl <;> decide
  rw [readBody]
  simp only [special, server, if_true, readPlace, List.span_eq_takeWhile_dropWhile, slashed,
    readAuthority_more web]
  cases readAuthority scheme true _ <;> rfl

/-- Who is asked depends on nothing but the scheme and the text that names the server. -/
theorem origin_read (web : IsWeb scheme) {text : String} {rest : List Char}
    (trimmed : trimControls text.toList = scheme.toList ++ ':' :: rest) :
    (read text).map origin =
      (readAuthority scheme true (serverText rest)).map fun result => (scheme, some result.1) := by
  have body : (cut '?' (cut '#' rest).1).1 = rest.takeWhile isInBody := by
    rw [cut_fst, cut_fst, List.takeWhile_takeWhile]
    congr 1
    funext c
    rw [isInBody, Bool.decide_and, Bool.decide_coe, Bool.decide_coe]
  have parts : (read text).map origin =
      ((readBody scheme ((cut '?' (cut '#' rest).1).2.isSome || (cut '#' rest).2.isSome)
        (cut '?' (cut '#' rest).1).1).map (·.1)).map ((scheme, ·)) := by
    rw [read, trimmed, scheme?_web web]
    simp only
    cases readBody scheme _ _ <;> rfl
  rw [parts, readBody_web web, body, ← serverText]
  cases readAuthority scheme true (serverText rest) <;> rfl

/-- The characters that mean nothing between the scheme and the server. -/
def isLead (c : Char) : Bool := c == '/' || c == '\\' || isBreak c

theorem isInBody_of_isLead {c : Char} (lead : isLead c) : isInBody c := by
  simp only [isLead, isBreak, Bool.or_eq_true, beq_iff_eq] at lead
  rcases lead with (rfl | rfl) | (rfl | rfl) | rfl <;> decide

theorem slashed_append (front rest : List Char) :
    slashed (front ++ rest) = slashed front ++ slashed rest := by
  rw [slashed, List.map_append, dropBreaks, List.filter_append]
  rfl

theorem eq_slash_of_lead {front : List Char} (lead : ∀ c ∈ front, isLead c) {c : Char}
    (member : c ∈ slashed front) : c = '/' := by
  obtain ⟨mapped, whole⟩ := List.mem_filter.mp member
  obtain ⟨other, present, rfl⟩ := List.mem_map.mp mapped
  have lead := lead other present
  by_cases back : other = '\\'
  · rw [if_pos back]
  · rw [if_neg back] at whole ⊢
    have unbroken : isBreak other = false := by simpa using whole
    simpa [isLead, back, unbroken] using lead

theorem mem_slashed {front : List Char} {c : Char} (member : c ∈ front) (solid : isLead c = false) :
    c ∈ slashed front := by
  simp only [isLead, Bool.or_eq_false_iff, beq_eq_false_iff_ne] at solid
  refine List.mem_filter.mpr ⟨List.mem_map.mpr ⟨c, member, if_neg solid.1.2⟩, ?_⟩
  simp [solid.2]

theorem takeWhile_append_stop {p : Char → Bool} {stop : Char} (stops : p stop = false)
    (front rest : List Char) : (front ++ stop :: rest).takeWhile p = front.takeWhile p := by
  induction front with
  | nil => simp [stops]
  | cons c front ih => simp only [List.cons_append, List.takeWhile_cons, ih]

theorem takeWhile_append_of_exists {p : Char → Bool} {front : List Char} (stops : ∃ c ∈ front, p c = false)
    (rest : List Char) : (front ++ rest).takeWhile p = front.takeWhile p := by
  obtain ⟨c, member, stops⟩ := stops
  obtain ⟨before, after, rfl⟩ := List.append_of_mem member
  rw [List.append_assoc, List.cons_append, takeWhile_append_stop stops, takeWhile_append_stop stops]

theorem serverText_of_lead {front : List Char} (lead : ∀ c ∈ front, isLead c) (rest : List Char) :
    serverText (front ++ rest) = serverText rest := by
  have inBody (c : Char) (member : c ∈ front) : isInBody c := isInBody_of_isLead (lead c member)
  have slashes (c : Char) (member : c ∈ slashed front) : c == '/' := by
    simp [eq_slash_of_lead lead member]
  rw [serverText, List.takeWhile_append_of_pos inBody, slashed_append,
    List.dropWhile_append_of_pos slashes, serverText]

/-- Where anything names the server, a slash ends it. -/
theorem serverText_append {front : List Char} (solid : ∃ c ∈ front, isLead c = false)
    (rest : List Char) : serverText (front ++ '/' :: rest) = serverText front := by
  by_cases all : ∀ c ∈ front, isInBody c
  · have named : ((slashed front).dropWhile (· == '/')).isEmpty = false := by
      obtain ⟨c, member, solid⟩ := solid
      rw [List.isEmpty_eq_false_iff, ne_eq, List.dropWhile_eq_nil_iff]
      intro slashes
      have slash : c = '/' := by simpa using slashes c (mem_slashed member solid)
      rw [slash] at solid
      cases solid
    have whole : front.takeWhile isInBody = front := List.takeWhile_eq_self_iff.mpr all
    have stop : slashed ('/' :: rest.takeWhile isInBody) = '/' :: slashed (rest.takeWhile isInBody) := rfl
    rw [serverText, serverText, whole, List.takeWhile_append_of_pos all,
      List.takeWhile_cons_of_pos (by decide), slashed_append, stop, List.dropWhile_append, named]
    exact takeWhile_append_stop (by decide) _ _
  · have stops : ∃ c ∈ front, isInBody c = false := by simpa using all
    rw [serverText, serverText, takeWhile_append_of_exists stops]

end GrantKeeper.Url
