import DsiPanel.Model

/-!
# The Helitai panel with an ST7703 controller

720 by 1520 pixels, four lanes, video framed by sync pulses. The two bias rails come from a
regulated supply. Its registers take whole blocks of bytes, and the first write unlocks the rest.
-/

set_option autoImplicit false

namespace DsiPanel.Catalog.St7703

/-- The voltage of each bias rail. -/
def railMillivolts : UInt16 := 5500

/-- Three registers are watched, one of them with three bytes. -/
def datasheet : Datasheet where
  connection := .dsi
  width := 720
  height := 1520
  density := 320
  link :=
    { mode := .syncPulseVideo
      lanes := .four
      packetSize := 256
      pixelFormat := { depth := .rgb888 }
      pixelStream := .packed888
      timing :=
        { vertical := { sync := 3, backPorch := 10, frontPorch := 16, visible := 1520 }
          horizontal := { sync := 10, backPorch := 50, frontPorch := 50, visible := 720 } }
      clockMHz := 241
      watched := true
      slots :=
        #v[{ register := 0x68, expected := [0xC0] },
          { register := 0x09, expected := [0x80, 0x73, 0x04] },
          { register := 0xAF, expected := [0xFD] }] }

/-- The reset pulse comes before the rails. -/
def powerOn : Script :=
  [.reset .high, .delayMs 10,
    .reset .low, .delayMs 1,
    .reset .high, .delayMs 120,
    .bias true .positiveFirst railMillivolts, .delayMs 15]

/-- Reset is driven low once more after the rails are off. -/
def powerOff : Script :=
  [.delayMs 10,
    .reset .low, .delayMs 120,
    .bias false .negativeFirst railMillivolts,
    .reset .low, .delayMs 10]

/-- The registers, and then the standard commands that wake the panel and turn it on. -/
def initTable : Table :=
  [.register 0xB9 [0xF1, 0x12, 0x83],
    .register 0xBA
      [0x33, 0x81, 0x05, 0xF9, 0x0E, 0x0E, 0x20, 0x00, 0x00, 0x00, 0x00, 0x00,
        0x00, 0x00, 0x44, 0x25, 0x00, 0x90, 0x0A, 0x00, 0x00, 0x00, 0x4F, 0xD1,
        0xFF, 0x7F, 0x37],
    .register 0xB8 [0x75],
    .register 0xBF [0x02, 0x11, 0x00],
    .register 0xB3 [0x07, 0x0B, 0x28, 0x28, 0x03, 0xFF, 0x00, 0x00, 0x00, 0x00],
    .register 0xC0 [0x73, 0x73, 0x50, 0x50, 0x00, 0x00, 0x08, 0x50, 0x00],
    .register 0xBC [0x46],
    .register 0xCC [0x0A],
    .register 0xB4 [0x80],
    .register 0xB1 [0x85],
    .register 0xB2 [0x04, 0x12, 0xF0],
    .register 0xE3
      [0x07, 0x07, 0x0B, 0x0B, 0x03, 0x0B, 0x00, 0x00, 0x00, 0x00, 0xFF, 0x80,
        0xC0, 0x17],
    .register 0xC1
      [0x54, 0x00, 0x1E, 0x1E, 0x99, 0xF1, 0xFF, 0xFF, 0xEE, 0xEE, 0x77, 0x77],
    .register 0xC6 [0x25, 0x00, 0xFF, 0xDF, 0x20, 0x20],
    .register 0xB5 [0x09, 0x09],
    .register 0xB6 [0x60, 0x60],
    .register 0xE9
      [0x02, 0x00, 0x07, 0x05, 0xFD, 0x80, 0x81, 0x12, 0x31, 0x23, 0x77, 0x0B,
        0x80, 0x81, 0x47, 0x18, 0x00, 0x01, 0x01, 0x00, 0x00, 0x00, 0x00, 0x01,
        0x01, 0x00, 0x00, 0x00, 0x4F, 0x88, 0x64, 0x20, 0x08, 0x88, 0x88, 0x88,
        0x88, 0x88, 0x88, 0x5F, 0x88, 0x75, 0x31, 0x18, 0x88, 0x88, 0x88, 0x88,
        0x88, 0x88, 0x00, 0x00, 0x00, 0x01, 0x00, 0x00, 0x00, 0x00, 0x00, 0x00,
        0x00, 0x00, 0x00],
    .register 0xEA
      [0x00, 0x1A, 0x00, 0x00, 0x00, 0x00, 0x02, 0x00, 0x00, 0x00, 0x00, 0x00,
        0x18, 0xF8, 0x13, 0x57, 0x58, 0x88, 0x88, 0x88, 0x88, 0x88, 0x88, 0x08,
        0xF8, 0x02, 0x46, 0x48, 0x88, 0x88, 0x88, 0x88, 0x88, 0x88, 0x23, 0x14,
        0x00, 0x00, 0x1C, 0x00, 0x00, 0x00, 0x00, 0x00, 0x00, 0x00, 0x00, 0x00,
        0x00, 0x00, 0x00, 0x00, 0x00, 0x00, 0x30, 0x80, 0x81, 0x00, 0x00, 0x00,
        0x00],
    .register 0xE0
      [0x00, 0x09, 0x0D, 0x2B, 0x2B, 0x3F, 0x3E, 0x31, 0x07, 0x0C, 0x0D, 0x11,
        0x12, 0x10, 0x13, 0x16, 0x1C, 0x00, 0x09, 0x0D, 0x2B, 0x2B, 0x3F, 0x3E,
        0x31, 0x07, 0x0C, 0x0D, 0x11, 0x12, 0x10, 0x13, 0x16, 0x1C],
    .register 0xEF [0xFF, 0xFF, 0x01],
    .register 0xC7 [0x10],
    .register Dcs.exitSleep [0x00],
    .delay 120,
    .register Dcs.displayOn [0x00],
    .delay 5,
    .endMark]

/-- Turn the display off, and put the panel to sleep. -/
def suspendTable : Table :=
  [.command Dcs.displayOff, .delay 20,
    .command Dcs.enterSleep, .delay 200]

end St7703

/-- The Helitai panel. -/
def st7703 : Model where
  name := "ST7703_HELITAI"
  datasheet := St7703.datasheet
  powerOn := St7703.powerOn
  initTable := St7703.initTable
  suspendTable := St7703.suspendTable
  powerOff := St7703.powerOff

end DsiPanel.Catalog
