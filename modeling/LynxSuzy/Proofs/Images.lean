import LynxSuzy.Cartridge

/-!
Contract: which images make a cartridge, and where the banks lie in them.

Owns: the conditions on an image with a header and on a plain one; the refusal of
any other for the first condition that it fails; and the banks of an image that is
accepted, which lie inside it one behind the other.

Does **not** own: how a bank is read (`Proofs.Streaming`), nor what a host makes of a
refusal (`Proofs.Mounting`).
-/

set_option autoImplicit false

namespace LynxSuzy

namespace Cartridge

/-! ## Conditions -/

def Headed (image : Array UInt8) : Prop :=
  magic <+: image.toList

/-- The bytes that an image with a header must have: the header, and 256 pages for each
bank. -/
def wholeSize (image : Array UInt8) : Nat :=
  headerSize + 256 * (wordAt image 4 + wordAt image 6)

inductive Fits (image : Array UInt8) : Prop where
  | headed (header : Headed image) (long : headerSize ≤ image.size)
      (first : wordAt image 4 ∈ pageSizes)
      (second : wordAt image 6 = 0 ∨ wordAt image 6 ∈ pageSizes)
      (whole : wholeSize image ≤ image.size)
  | plain (bare : ¬Headed image) (size : Nat) (supported : size ∈ pageSizes)
      (whole : image.size = 256 * size)

/-- The first condition that an image fails, by what is reported of it. -/
inductive Refused (image : Array UInt8) : CartridgeError → Prop where
  | shortHeader (header : Headed image) (short : image.size < headerSize) :
      Refused image (.truncated headerSize image.size)
  | firstBank (header : Headed image) (long : headerSize ≤ image.size)
      (unsupported : wordAt image 4 ∉ pageSizes) :
      Refused image (.unsupportedPageSize (wordAt image 4))
  | secondBank (header : Headed image) (long : headerSize ≤ image.size)
      (first : wordAt image 4 ∈ pageSizes) (present : wordAt image 6 ≠ 0)
      (unsupported : wordAt image 6 ∉ pageSizes) :
      Refused image (.unsupportedPageSize (wordAt image 6))
  | shortBody (header : Headed image) (long : headerSize ≤ image.size)
      (first : wordAt image 4 ∈ pageSizes)
      (second : wordAt image 6 = 0 ∨ wordAt image 6 ∈ pageSizes)
      (short : image.size < wholeSize image) :
      Refused image (.truncated (wholeSize image) image.size)
  | uneven (bare : ¬Headed image) (uneven : image.size = 0 ∨ ¬256 ∣ image.size) :
      Refused image (.invalidSize image.size)
  | onlyBank (bare : ¬Headed image) (nonempty : image.size ≠ 0) (even : 256 ∣ image.size)
      (unsupported : image.size / 256 ∉ pageSizes) :
      Refused image (.unsupportedPageSize (image.size / 256))

/-! ## Banks -/

/-- The banks behind a header, which tells the page sizes of both. -/
def headedBanks (image : Array UInt8) : Bank × Bank :=
  (⟨headerSize, wordAt image 4⟩, ⟨headerSize + 256 * wordAt image 4, wordAt image 6⟩)

/-- The only bank of a plain image is all of it; the second is missing. -/
def plainBanks (image : Array UInt8) : Bank × Bank :=
  (⟨0, image.size / 256⟩, ⟨256 * (image.size / 256), 0⟩)

def banksOf (image : Array UInt8) : Bank × Bank :=
  if hasHeader image then headedBanks image else plainBanks image

def bankOf (image : Array UInt8) : Fin 2 → Bank
  | 0 => (banksOf image).1
  | 1 => (banksOf image).2

structure LiesIn (image : Array UInt8) (bank : Bank) : Prop where
  supported : bank.pageSize ∈ pageSizes
  inside : bank.base + 256 * bank.pageSize ≤ image.size

def inserted (image : Array UInt8) : Cartridge :=
  insert image (banksOf image).1 (banksOf image).2

section Checks

variable {image : Array UInt8} {size : Nat}

theorem hasHeader_iff : hasHeader image = true ↔ Headed image := by
  rw [Headed, List.prefix_iff_eq_take, hasHeader, beq_iff_eq, Array.toList_extract,
    List.extract_eq_take_drop, List.drop_zero, Nat.sub_zero, eq_comm]

theorem pageSizes_pos (supported : size ∈ pageSizes) : 0 < size := by
  have all : ∀ size ∈ pageSizes, 0 < size := by decide
  exact all size supported

theorem checkPageSize_of_mem (supported : size ∈ pageSizes) : checkPageSize size = .ok size :=
  if_pos supported

theorem checkPageSize_of_notMem (unsupported : size ∉ pageSizes) :
    checkPageSize size = .error (.unsupportedPageSize size) :=
  if_neg unsupported

theorem checkOptionalPageSize_of_mem (supported : size = 0 ∨ size ∈ pageSizes) :
    checkOptionalPageSize size = .ok size := by
  by_cases missing : size = 0
  · rw [checkOptionalPageSize, if_pos missing, missing]
  · rw [checkOptionalPageSize, if_neg missing,
      checkPageSize_of_mem (supported.resolve_left missing)]

theorem checkOptionalPageSize_of_notMem (present : size ≠ 0) (unsupported : size ∉ pageSizes) :
    checkOptionalPageSize size = .error (.unsupportedPageSize size) := by
  rw [checkOptionalPageSize, if_neg present, checkPageSize_of_notMem unsupported]

/-- The checks behind the header's own length, in their order. -/
theorem ofImage_of_header (header : Headed image) (long : headerSize ≤ image.size) :
    ofImage image
      = (do
        let first ← checkPageSize (wordAt image 4)
        let second ← checkOptionalPageSize (wordAt image 6)
        if image.size < headerSize + first * 256 + second * 256 then
          throw (.truncated (headerSize + first * 256 + second * 256) image.size)
        return insert image ⟨headerSize, first⟩ ⟨headerSize + first * 256, second⟩) := by
  rw [ofImage, if_pos (hasHeader_iff.2 header), ofHeadedImage, if_neg (Nat.not_lt.2 long)]
  rfl

/-- The check behind that of a plain image's length. -/
theorem ofImage_of_even (bare : ¬Headed image) (nonempty : image.size ≠ 0)
    (even : 256 ∣ image.size) :
    ofImage image
      = (do
        let size ← checkPageSize (image.size / 256)
        return insert image ⟨0, size⟩ ⟨size * 256, 0⟩) := by
  have passes : ¬(image.size = 0 ∨ image.size % Bank.pages ≠ 0) := by
    rintro (empty | uneven)
    · exact nonempty empty
    · exact uneven (Nat.mod_eq_zero_of_dvd even)
  rw [ofImage, if_neg (mt hasHeader_iff.1 bare), ofPlainImage, if_neg passes]
  rfl

theorem banksOf_of_header (header : Headed image) : banksOf image = headedBanks image :=
  if_pos (hasHeader_iff.2 header)

theorem banksOf_of_plain (bare : ¬Headed image) : banksOf image = plainBanks image :=
  if_neg (mt hasHeader_iff.1 bare)

theorem wholeSize_eq : headerSize + wordAt image 4 * 256 + wordAt image 6 * 256
    = wholeSize image := by
  unfold wholeSize
  omega

end Checks

section Verdicts

variable {image : Array UInt8}

/-- **An image that meets the conditions is accepted.** -/
theorem ofImage_of_fits (fits : Fits image) : ofImage image = .ok (inserted image) := by
  cases fits with
  | headed header long first second whole =>
      rw [ofImage_of_header header long, checkPageSize_of_mem first,
        checkOptionalPageSize_of_mem second]
      change (if _ then _ else _) = _
      rw [wholeSize_eq, if_neg (Nat.not_lt.2 whole), inserted, banksOf_of_header header,
        headedBanks, Nat.mul_comm 256]
      rfl
  | plain bare size supported whole =>
      have pages : image.size / 256 = size := by omega
      have nonempty : image.size ≠ 0 := by
        have positive := pageSizes_pos supported
        omega
      rw [ofImage_of_even bare nonempty ⟨size, whole⟩, pages, checkPageSize_of_mem supported,
        inserted, banksOf_of_plain bare, plainBanks, pages, Nat.mul_comm 256]
      rfl

/-- **An image that fails one is refused for the first that it fails.** -/
theorem ofImage_of_refused {error : CartridgeError} (refused : Refused image error) :
    ofImage image = .error error := by
  cases refused with
  | shortHeader header short =>
      rw [ofImage, if_pos (hasHeader_iff.2 header), ofHeadedImage, if_pos short]
      rfl
  | firstBank header long unsupported =>
      rw [ofImage_of_header header long, checkPageSize_of_notMem unsupported]
      rfl
  | secondBank header long first present unsupported =>
      rw [ofImage_of_header header long, checkPageSize_of_mem first,
        checkOptionalPageSize_of_notMem present unsupported]
      rfl
  | shortBody header long first second short =>
      rw [ofImage_of_header header long, checkPageSize_of_mem first,
        checkOptionalPageSize_of_mem second]
      change (if _ then _ else _) = _
      rw [wholeSize_eq, if_pos short]
      rfl
  | uneven bare uneven =>
      have fails : image.size = 0 ∨ image.size % Bank.pages ≠ 0 :=
        uneven.imp_right (mt Nat.dvd_of_mod_eq_zero)
      rw [ofImage, if_neg (mt hasHeader_iff.1 bare), ofPlainImage, if_pos fails]
      rfl
  | onlyBank bare nonempty even unsupported =>
      rw [ofImage_of_even bare nonempty even, checkPageSize_of_notMem unsupported]
      rfl

theorem fits_or_refused (image : Array UInt8) : Fits image ∨ ∃ error, Refused image error := by
  by_cases header : Headed image
  · by_cases long : headerSize ≤ image.size
    · by_cases first : wordAt image 4 ∈ pageSizes
      · by_cases second : wordAt image 6 = 0 ∨ wordAt image 6 ∈ pageSizes
        · by_cases whole : wholeSize image ≤ image.size
          · exact Or.inl (.headed header long first second whole)
          · exact Or.inr ⟨_, .shortBody header long first second (Nat.not_le.1 whole)⟩
        · obtain ⟨present, unsupported⟩ := not_or.1 second
          exact Or.inr ⟨_, .secondBank header long first present unsupported⟩
      · exact Or.inr ⟨_, .firstBank header long first⟩
    · exact Or.inr ⟨_, .shortHeader header (Nat.not_le.1 long)⟩
  · by_cases even : 256 ∣ image.size
    · by_cases supported : image.size / 256 ∈ pageSizes
      · exact Or.inl (.plain header _ supported (Nat.mul_div_cancel' even).symm)
      · by_cases empty : image.size = 0
        · exact Or.inr ⟨_, .uneven header (Or.inl empty)⟩
        · exact Or.inr ⟨_, .onlyBank header empty even supported⟩
    · exact Or.inr ⟨_, .uneven header (Or.inr even)⟩

theorem ofImage_eq_ok_iff {cartridge : Cartridge} :
    ofImage image = .ok cartridge ↔ Fits image ∧ cartridge = inserted image := by
  constructor
  · intro accepted
    rcases fits_or_refused image with fits | ⟨error, refused⟩
    · exact ⟨fits, Except.ok.inj (accepted.symm.trans (ofImage_of_fits fits))⟩
    · rw [ofImage_of_refused refused] at accepted
      cases accepted
  · rintro ⟨fits, rfl⟩
    exact ofImage_of_fits fits

theorem ofImage_eq_error_iff {error : CartridgeError} :
    ofImage image = .error error ↔ Refused image error := by
  constructor
  · intro refusal
    rcases fits_or_refused image with fits | ⟨other, refused⟩
    · rw [ofImage_of_fits fits] at refusal
      cases refusal
    · rw [ofImage_of_refused refused] at refusal
      exact Except.error.inj refusal ▸ refused
  · exact ofImage_of_refused

/-- Only the letters of a header, and nothing behind them. -/
example : ofImage #[0x4C, 0x59, 0x4E, 0x58] = .error (.truncated 64 4) := rfl

theorem Fits.firstBank (fits : Fits image) : LiesIn image (banksOf image).1 := by
  cases fits with
  | headed header long first second whole =>
      unfold wholeSize at whole
      rw [banksOf_of_header header]
      exact ⟨first, show headerSize + 256 * wordAt image 4 ≤ image.size by omega⟩
  | plain bare size supported whole =>
      have pages : image.size / 256 = size := by omega
      rw [banksOf_of_plain bare]
      exact ⟨show image.size / 256 ∈ pageSizes from pages ▸ supported,
        show 0 + 256 * (image.size / 256) ≤ image.size by omega⟩

theorem Fits.secondBank (fits : Fits image) (present : (banksOf image).2.pageSize ≠ 0) :
    LiesIn image (banksOf image).2 := by
  cases fits with
  | headed header long first second whole =>
      unfold wholeSize at whole
      rw [banksOf_of_header header] at present ⊢
      refine ⟨second.resolve_left present, ?_⟩
      show headerSize + 256 * wordAt image 4 + 256 * wordAt image 6 ≤ image.size
      omega
  | plain bare size supported whole =>
      rw [banksOf_of_plain bare] at present
      exact absurd rfl present

/-- **The banks of an accepted image lie inside it.** -/
theorem Fits.bankOf (fits : Fits image) (number : Fin 2)
    (present : (bankOf image number).pageSize ≠ 0) : LiesIn image (bankOf image number) := by
  match number with
  | 0 => exact fits.firstBank
  | 1 => exact fits.secondBank present

end Verdicts

end Cartridge

end LynxSuzy
