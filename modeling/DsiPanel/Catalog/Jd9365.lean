import DsiPanel.Model

/-!
# The Guoxian panel with a JD9365 controller

720 by 1520 pixels, four lanes, video framed by sync pulses. The bias rail is a plain supply that
one pin switches. Its registers hold one byte each and are spread over pages: register `0xE0`
chooses the page, on every page, and a register number means something else on each of them. The
standard commands are those of page 0, which is why the init table comes back to it before it
wakes the panel.
-/

set_option autoImplicit false

namespace DsiPanel.Catalog.Jd9365

/-- The register that chooses the page. -/
def pageRegister : UInt32 := 0xE0

/-- Set one register. -/
def setting (register : UInt32) (value : UInt8) : Entry :=
  .register register [value] (by simp [maxParameters])

/-- Choose a page and set registers on it. -/
def page (number : UInt8) (settings : List (UInt32 × UInt8)) : Table :=
  setting pageRegister number :: settings.map fun (register, value) => setting register value

/-! ## Datasheet and power -/

/-- One register is watched: the power mode. -/
def datasheet : Datasheet where
  connection := .dsi
  width := 720
  height := 1520
  density := 320
  link :=
    { mode := .syncPulseVideo
      lanes := .four
      packetSize := 256
      pixelFormat := { depth := .rgb888 }
      pixelStream := .packed888
      timing :=
        { vertical := { sync := 4, backPorch := 12, frontPorch := 18, visible := 1520 }
          horizontal := { sync := 20, backPorch := 80, frontPorch := 80, visible := 720 } }
      clockMHz := 260
      watched := true
      watchedBySlots := true
      slots := #v[{ register := Dcs.getPowerMode, expected := [0x1C] }, {}, {}] }

/-- The supply comes first, then the reset pulse. -/
def powerOn : Script :=
  [.biasPin .high, .delayMs 15,
    .reset .high, .delayMs 2,
    .reset .low, .delayMs 5,
    .reset .high, .delayMs 15]

/-- The supply goes off last, with reset held low. -/
def powerOff : Script :=
  [.delayMs 10,
    .reset .low, .delayMs 120,
    .biasPin .low]

/-! ## Tables -/

/-- Page 0, before the others. -/
def page0 : Table :=
  page 0
    [(0xE1, 0x93), (0xE2, 0x65), (0xE3, 0xF8), (0x80, 0x03)]

/-- Page 1. -/
def page1 : Table :=
  page 1
    [(0x00, 0x00), (0x01, 0x47), (0x03, 0x00), (0x04, 0x48), (0x17, 0x00), (0x18, 0xCD),
      (0x19, 0x00), (0x1A, 0x00), (0x1B, 0xCD), (0x1C, 0x00), (0x23, 0x02), (0x24, 0xFE),
      (0x25, 0x20), (0x27, 0x22), (0x32, 0x23), (0x37, 0x09), (0x38, 0x04), (0x39, 0x08),
      (0x3A, 0x12), (0x3C, 0x64), (0x3D, 0xFF), (0x3E, 0xFF), (0x3F, 0x64), (0x40, 0x04),
      (0x41, 0xBE), (0x42, 0x6B), (0x43, 0x12), (0x44, 0x0F), (0x45, 0x28), (0x55, 0x0F),
      (0x56, 0x01), (0x57, 0x65), (0x58, 0x0A), (0x59, 0x0A), (0x5A, 0x28), (0x5B, 0x10),
      (0x5D, 0x4C), (0x5E, 0x36), (0x5F, 0x2A), (0x60, 0x20), (0x61, 0x20), (0x62, 0x14),
      (0x63, 0x1D), (0x64, 0x0B), (0x65, 0x28), (0x66, 0x2A), (0x67, 0x2D), (0x68, 0x4D),
      (0x69, 0x3D), (0x6A, 0x47), (0x6B, 0x39), (0x6C, 0x39), (0x6D, 0x2E), (0x6E, 0x22),
      (0x6F, 0x09), (0x70, 0x4C), (0x71, 0x36), (0x72, 0x2A), (0x73, 0x20), (0x74, 0x20),
      (0x75, 0x14), (0x76, 0x1D), (0x77, 0x0B), (0x78, 0x28), (0x79, 0x2A), (0x7A, 0x2D),
      (0x7B, 0x4D), (0x7C, 0x3D), (0x7D, 0x47), (0x7E, 0x39), (0x7F, 0x39), (0x80, 0x2E),
      (0x81, 0x22), (0x82, 0x09)]

/-- Page 2. On it the numbers of the standard commands are registers like any other. -/
def page2 : Table :=
  page 2
    [(0x00, 0x5E), (0x01, 0x5F), (0x02, 0x57), (0x03, 0x58), (0x04, 0x44), (0x05, 0x46),
      (0x06, 0x48), (0x07, 0x4A), (0x08, 0x40), (0x09, 0x1D), (0x0A, 0x1D), (0x0B, 0x1D),
      (0x0C, 0x1D), (0x0D, 0x1D), (0x0E, 0x1D), (0x0F, 0x50), (0x10, 0x5F), (0x11, 0x5F),
      (0x12, 0x5F), (0x13, 0x5F), (0x14, 0x5F), (0x15, 0x5F), (0x16, 0x5E), (0x17, 0x5F),
      (0x18, 0x57), (0x19, 0x58), (0x1A, 0x45), (0x1B, 0x47), (0x1C, 0x49), (0x1D, 0x4B),
      (0x1E, 0x41), (0x1F, 0x1D), (0x20, 0x1D), (0x21, 0x1D), (0x22, 0x1D), (0x23, 0x1D),
      (0x24, 0x1D), (0x25, 0x51), (0x26, 0x5F), (0x27, 0x5F), (0x28, 0x5F), (0x29, 0x5F),
      (0x2A, 0x5F), (0x2B, 0x5F), (0x2C, 0x1F), (0x2D, 0x1E), (0x2E, 0x17), (0x2F, 0x18),
      (0x30, 0x0B), (0x31, 0x09), (0x32, 0x07), (0x33, 0x05), (0x34, 0x11), (0x35, 0x1F),
      (0x36, 0x1F), (0x37, 0x1F), (0x38, 0x1F), (0x39, 0x1F), (0x3A, 0x1F), (0x3B, 0x01),
      (0x3C, 0x1F), (0x3D, 0x1F), (0x3E, 0x1F), (0x3F, 0x1F), (0x40, 0x1F), (0x41, 0x1F),
      (0x42, 0x1F), (0x43, 0x1E), (0x44, 0x17), (0x45, 0x18), (0x46, 0x0A), (0x47, 0x08),
      (0x48, 0x06), (0x49, 0x04), (0x4A, 0x10), (0x4B, 0x1F), (0x4C, 0x1F), (0x4D, 0x1F),
      (0x4E, 0x1F), (0x4F, 0x1F), (0x50, 0x1F), (0x51, 0x00), (0x52, 0x1F), (0x53, 0x1F),
      (0x54, 0x1F), (0x55, 0x1F), (0x56, 0x1F), (0x57, 0x1F), (0x58, 0x40), (0x59, 0x00),
      (0x5A, 0x00), (0x5B, 0x10), (0x5C, 0x0B), (0x5D, 0x30), (0x5E, 0x01), (0x5F, 0x02),
      (0x60, 0x30), (0x61, 0x03), (0x62, 0x04), (0x63, 0x1C), (0x64, 0x52), (0x65, 0x56),
      (0x66, 0x00), (0x67, 0x73), (0x68, 0x0D), (0x69, 0x0D), (0x6A, 0x52), (0x6B, 0x00),
      (0x6C, 0x00), (0x6D, 0x00), (0x6E, 0x00), (0x6F, 0x88), (0x70, 0x00), (0x71, 0x00),
      (0x72, 0x06), (0x73, 0x7B), (0x74, 0x00), (0x75, 0xBC), (0x76, 0x00), (0x77, 0x0E),
      (0x78, 0x11), (0x79, 0x00), (0x7A, 0x00), (0x7B, 0x00), (0x7C, 0x00), (0x7D, 0x03),
      (0x7E, 0x7B)]

/-- Page 4. -/
def page4 : Table :=
  page 4
    [(0x09, 0x11), (0x0E, 0x4A)]

/-- Back on page 0, the standard commands that wake the panel and turn it on. -/
def wake : Table :=
  page 0 [(Dcs.tearOn, 0x00), (Dcs.exitSleep, 0x00)] ++
    [.delay 120, setting Dcs.displayOn 0x00, .delay 5, .endMark]

/-- All pages in order, and then the panel is woken. -/
def initTable : Table :=
  page0 ++ page1 ++ page2 ++ page4 ++ wake

/-- Page 0 is still chosen when this is sent, so nothing has to choose it. -/
def suspendTable : Table :=
  [.delay 5,
    .command Dcs.displayOff, .delay 50,
    .command Dcs.enterSleep, .delay 120]

end Jd9365

/-- The Guoxian panel. -/
def jd9365 : Model where
  name := "JD9365_GUOXIAN"
  datasheet := Jd9365.datasheet
  powerOn := Jd9365.powerOn
  initTable := Jd9365.initTable
  suspendTable := Jd9365.suspendTable
  powerOff := Jd9365.powerOff

end DsiPanel.Catalog
