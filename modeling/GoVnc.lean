import GoVnc.HextileGrid
import GoVnc.ColorMapUpdate
import GoVnc.Security
import GoVnc.ConvertedColors
import GoVnc.Color
import GoVnc.Transcript
import GoVnc.Agreement
import GoVnc.LiveLoop
