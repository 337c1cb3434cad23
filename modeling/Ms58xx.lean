import Ms58xx.Device
import Ms58xx.Drv
import Ms58xx.Crc
import Ms58xx.Prom
import Ms58xx.Detection
import Ms58xx.Compensate
import Ms58xx.Bounds
import Ms58xx.Measure
import Ms58xx.Driver
import Ms58xx.History
import Ms58xx.Sensor
